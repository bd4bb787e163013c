import ClusterGraph.Statement

/-!
# The nodes that a statement mentions

A subgraph that stands in a chain of edges stands for the nodes mentioned in it. They are
collected with a stack of statements still to be visited: a node statement gives its id, edges and
subgraphs put what they hold on the stack, so that their last part is visited first. An id counts
where it is met first.
-/

namespace ClusterGraph.Statement

mutual

/-- The number of statements in a statement, itself included. -/
def weight : Statement → Nat
  | .node _ _ => 1
  | .edge elems _ => 1 + listWeight elems
  | .subgraph _ stmts => 1 + listWeight stmts
  | .attr _ _ => 1
  | .inlineAttr _ => 1
  | .unknown => 1

/-- The number of statements in a list of them. -/
def listWeight : List Statement → Nat
  | [] => 0
  | stmt :: rest => stmt.weight + listWeight rest

end

theorem listWeight_append (xs ys : List Statement) :
    listWeight (xs ++ ys) = listWeight xs + listWeight ys := by
  induction xs with
  | nil => simp [listWeight]
  | cons x xs ih => simp only [List.cons_append, listWeight, ih]; omega

theorem listWeight_reverse (xs : List Statement) : listWeight xs.reverse = listWeight xs := by
  induction xs with
  | nil => rfl
  | cons x xs ih => simp only [List.reverse_cons, listWeight_append, listWeight, ih]; omega

/-- Puts statements on a stack one after another, so that the last of them is on top. -/
def push (stmts stack : List Statement) : List Statement := stmts.reverse ++ stack

theorem listWeight_push (stmts stack : List Statement) :
    listWeight (push stmts stack) = listWeight stmts + listWeight stack := by
  rw [push, listWeight_append, listWeight_reverse]

/-- Puts an id last, unless it is there already. -/
def addId (ids : List String) (id : String) : List String :=
  if id ∈ ids then ids else ids ++ [id]

/-- Visits the statements of a stack, its top first, and collects ids behind those met before. -/
def collectIds (ids : List String) : List Statement → List String
  | [] => ids
  | .node id _ :: stack => collectIds (addId ids id) stack
  | .edge elems _ :: stack => collectIds ids (push elems stack)
  | .subgraph _ stmts :: stack => collectIds ids (push stmts stack)
  | .attr _ _ :: stack => collectIds ids stack
  | .inlineAttr _ :: stack => collectIds ids stack
  | .unknown :: stack => collectIds ids stack
termination_by stack => listWeight stack
decreasing_by
  all_goals simp only [listWeight_push, listWeight, weight]; omega

/-- The ids of the nodes mentioned in a statement, each where it is met first. -/
def mentionedIds (stmt : Statement) : List String := collectIds [] [stmt]

end ClusterGraph.Statement
