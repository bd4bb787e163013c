import ClusterGraph.Proofs.FirstOccurrences
import ClusterGraph.Statement.Mentions
import Mathlib.Logic.Function.Iterate

/-!
# Collecting mentioned nodes is a traversal

`Statement.mentionedIds` works with a stack of statements that are still to be visited. One visit
takes a statement off the stack and may put others on it (`Statement.visit`), and takes one off the
weight of the stack, so collecting ends after as many visits as there are statements. What it gives
is the recursive walk through a statement that goes from the last part to the first
(`Statement.idsFromLast`), with every id where it is met first
(`Statement.mentionedIds_traversal`).
-/

namespace ClusterGraph

namespace Statement

variable {id : String}

/-! ### Walking through a statement -/

/-- A node statement for the id stands in a statement, inside chains and subgraphs at any depth. -/
inductive Mentions (id : String) : Statement → Prop where
  | node {attrs : Attrs} : Mentions id (.node id attrs)
  | edge {elem : Statement} {elems : List Statement} {attrs : Attrs} (hmem : elem ∈ elems)
      (h : Mentions id elem) : Mentions id (.edge elems attrs)
  | subgraph {stmt : Statement} {stmts : List Statement} {name : Option String}
      (hmem : stmt ∈ stmts) (h : Mentions id stmt) : Mentions id (.subgraph name stmts)

mutual

/-- The ids of the node statements met on a walk through a statement that goes down into chains and
subgraphs, and through their parts from the last to the first. -/
def idsFromLast : Statement → List String
  | .node id _ => [id]
  | .edge elems _ => idsFromLastOfAll elems
  | .subgraph _ stmts => idsFromLastOfAll stmts
  | .attr _ _ => []
  | .inlineAttr _ => []
  | .unknown => []

/-- The ids met on a walk through statements from the last to the first. -/
def idsFromLastOfAll : List Statement → List String
  | [] => []
  | stmt :: rest => idsFromLastOfAll rest ++ stmt.idsFromLast

end

mutual

/-- The walk meets the ids that are mentioned, and no others. -/
theorem mem_idsFromLast_iff : ∀ stmt : Statement, id ∈ stmt.idsFromLast ↔ stmt.Mentions id
  | .node _ _ => by
    rw [idsFromLast, List.mem_singleton]
    refine ⟨fun h => h ▸ .node, fun h => ?_⟩
    cases h
    rfl
  | .edge elems _ => by
    rw [idsFromLast, mem_idsFromLastOfAll_iff elems]
    refine ⟨fun ⟨_, hmem, h⟩ => .edge hmem h, fun h => ?_⟩
    obtain _ | ⟨hmem, h⟩ := h
    exact ⟨_, hmem, h⟩
  | .subgraph _ stmts => by
    rw [idsFromLast, mem_idsFromLastOfAll_iff stmts]
    refine ⟨fun ⟨_, hmem, h⟩ => .subgraph hmem h, fun h => ?_⟩
    obtain _ | _ | ⟨hmem, h⟩ := h
    exact ⟨_, hmem, h⟩
  | .attr _ _ => by
    rw [idsFromLast]
    exact ⟨nofun, nofun⟩
  | .inlineAttr _ => by
    rw [idsFromLast]
    exact ⟨nofun, nofun⟩
  | .unknown => by
    rw [idsFromLast]
    exact ⟨nofun, nofun⟩

theorem mem_idsFromLastOfAll_iff : ∀ stmts : List Statement,
    id ∈ idsFromLastOfAll stmts ↔ ∃ stmt ∈ stmts, stmt.Mentions id
  | [] => by
    rw [idsFromLastOfAll]
    exact ⟨nofun, nofun⟩
  | stmt :: rest => by
    rw [idsFromLastOfAll, List.mem_append, mem_idsFromLast_iff stmt, mem_idsFromLastOfAll_iff rest,
      List.exists_mem_cons_iff, or_comm]

end

/-! ### The same walk with a stack -/

theorem idsFromLastOfAll_eq (stmts : List Statement) :
    idsFromLastOfAll stmts = stmts.reverse.flatMap idsFromLast := by
  induction stmts with
  | nil => rw [idsFromLastOfAll, List.reverse_nil, List.flatMap_nil]
  | cons stmt rest ih =>
    rw [idsFromLastOfAll, ih, List.reverse_cons, List.flatMap_append, List.flatMap_singleton]

/-- What is put on a stack is walked through before what was there. -/
theorem flatMap_push (stmts stack : List Statement) :
    (push stmts stack).flatMap idsFromLast =
      idsFromLastOfAll stmts ++ stack.flatMap idsFromLast := by
  rw [push, List.flatMap_append, idsFromLastOfAll_eq]

/-- Collecting puts the ids of the walk behind those met before, each one once. -/
theorem collectIds_eq_foldl (ids : List String) (stack : List Statement) :
    collectIds ids stack = (stack.flatMap idsFromLast).foldl addId ids := by
  -- along the visit: the top of the stack comes first on the walk
  fun_induction collectIds ids stack with
  | case1 ids => rfl
  | case2 ids node attrs stack ih => rw [ih, List.flatMap_cons, idsFromLast]; rfl
  | case3 ids elems attrs stack ih => rw [ih, flatMap_push, List.flatMap_cons, idsFromLast]
  | case4 ids name stmts stack ih => rw [ih, flatMap_push, List.flatMap_cons, idsFromLast]
  | case5 ids target attrs stack ih => rw [ih, List.flatMap_cons, idsFromLast, List.nil_append]
  | case6 ids attrs stack ih => rw [ih, List.flatMap_cons, idsFromLast, List.nil_append]
  | case7 ids stack ih => rw [ih, List.flatMap_cons, idsFromLast, List.nil_append]

theorem mentionedIds_eq (stmt : Statement) : stmt.mentionedIds = stmt.idsFromLast.eraseDups := by
  have hnew := foldl_append_new [] stmt.idsFromLast
  rw [mentionedIds, collectIds_eq_foldl, List.flatMap_singleton]
  refine hnew.trans ?_
  exact List.filter_eq_self.2 fun _ _ => rfl

/-! ### Visits -/

/-- Visits the top of a stack of statements, with the ids collected before. -/
def visit : List String × List Statement → List String × List Statement
  | (ids, []) => (ids, [])
  | (ids, .node id _ :: stack) => (addId ids id, stack)
  | (ids, .edge elems _ :: stack) => (ids, push elems stack)
  | (ids, .subgraph _ stmts :: stack) => (ids, push stmts stack)
  | (ids, .attr _ _ :: stack) => (ids, stack)
  | (ids, .inlineAttr _ :: stack) => (ids, stack)
  | (ids, .unknown :: stack) => (ids, stack)

/-- A visit does not change what is collected in the end. -/
theorem collectIds_visit (ids : List String) (stack : List Statement) :
    collectIds (visit (ids, stack)).1 (visit (ids, stack)).2 = collectIds ids stack := by
  cases stack with
  | nil => rfl
  | cons stmt stack => cases stmt <;> rw [visit, collectIds]

/-- A visit takes one statement off the stack. -/
theorem listWeight_visit (ids : List String) (stack : List Statement) :
    listWeight (visit (ids, stack)).2 = listWeight stack - 1 := by
  cases stack with
  | nil => rfl
  | cons stmt stack =>
    cases stmt <;> simp only [visit, listWeight_push, listWeight, weight] <;> omega

theorem listWeight_eq_zero_iff (stack : List Statement) : listWeight stack = 0 ↔ stack = [] := by
  cases stack with
  | nil => exact ⟨fun _ => rfl, fun _ => rfl⟩
  | cons stmt stack =>
    have hpos : 0 < stmt.weight := by cases stmt <;> rw [weight] <;> omega
    simp only [listWeight, reduceCtorEq, iff_false]
    omega

/-- After some visits the same is still to be collected, and as many statements fewer are on the
stack. -/
theorem iterate_visit (n : Nat) (ids : List String) (stack : List Statement) :
    collectIds (visit^[n] (ids, stack)).1 (visit^[n] (ids, stack)).2 = collectIds ids stack ∧
      listWeight (visit^[n] (ids, stack)).2 = listWeight stack - n := by
  induction n with
  | zero => exact ⟨rfl, rfl⟩
  | succ n ih =>
    rw [Function.iterate_succ_apply', collectIds_visit, listWeight_visit, ih.1, ih.2]
    exact ⟨rfl, by omega⟩

/-- Collecting from a statement ends after as many visits as there are statements in it, and gives
the ids of the walk from the last part to the first, each where it is met first. So no id is given
twice, and those are given that are mentioned. -/
theorem mentionedIds_traversal (stmt : Statement) :
    (∀ n, (visit^[n] ([], [stmt])).2 = [] ↔ stmt.weight ≤ n) ∧
    (∀ n, stmt.weight ≤ n → visit^[n] ([], [stmt]) = (stmt.mentionedIds, [])) ∧
    stmt.mentionedIds = stmt.idsFromLast.eraseDups ∧ stmt.mentionedIds.Nodup ∧
    ∀ id, id ∈ stmt.mentionedIds ↔ stmt.Mentions id := by
  have hweight : listWeight [stmt] = stmt.weight := by simp only [listWeight, Nat.add_zero]
  have hempty : ∀ n, (visit^[n] ([], [stmt])).2 = [] ↔ stmt.weight ≤ n := fun n => by
    rw [← listWeight_eq_zero_iff, (iterate_visit n [] [stmt]).2, hweight, Nat.sub_eq_zero_iff_le]
  refine ⟨hempty, fun n hn => ?_, stmt.mentionedIds_eq, ?_, fun id => ?_⟩
  · have hcollect := (iterate_visit n [] [stmt]).1
    rw [(hempty n).2 hn, collectIds] at hcollect
    exact Prod.ext hcollect ((hempty n).2 hn)
  · rw [mentionedIds_eq]
    exact nodup_eraseDups _
  · rw [mentionedIds_eq, List.mem_eraseDups, mem_idsFromLast_iff]

end Statement

end ClusterGraph
