import ClusterGraph.Proofs.Build.Scoping

/-!
# Subgraphs that are entered and left

In the actions of a statement every subgraph that is entered is given its node at once, and at its
end it loses the node, if nothing lies in it, and is left (`Balanced`). So an invariant that holds
between statements, but not while a subgraph is being opened or closed, is proved by induction on
balanced actions, with one case for a whole subgraph (`Balanced.invariant`).

The actions before a position (`Position.done`) lead to the build just before it, and behind them
comes what the statement at the position begins with. The other way round, wherever a node is made
sure of by its own statement, and wherever a subgraph is entered, the build has arrived at a
position (`Reaches.exists_standsAt`).
-/

namespace ClusterGraph.Build

variable {settings : Settings} {doc : Document} {p : Progress} {action : Action}
  {actions rest : List Action}

/-! ### Balanced actions -/

/-- Whether an action belongs neither to the opening nor to the closing of a subgraph. -/
def Action.staysInScope : Action → Bool
  | .enter _ => false
  | .addScope => false
  | .elide => false
  | .leave => false
  | _ => true

/-- Every subgraph that is entered is given its node at once, and is left at its end. -/
inductive Balanced : List Action → Prop where
  | nil : Balanced []
  | cons {action : Action} {rest : List Action} (haction : action.staysInScope = true)
      (hrest : Balanced rest) : Balanced (action :: rest)
  | subgraph {body rest : List Action} (name : Option String) (hbody : Balanced body)
      (hrest : Balanced rest) :
      Balanced (.enter name :: .addScope :: (body ++ .elide :: .leave :: rest))

namespace Balanced

/-- Balanced actions can be put one behind the other. -/
theorem append {xs ys : List Action} (hx : Balanced xs) (hy : Balanced ys) :
    Balanced (xs ++ ys) := by
  induction hx with
  | nil => exact hy
  | cons haction _ ih => exact .cons haction ih
  | @subgraph body rest name hbody _ _ ih =>
    rw [List.cons_append, List.cons_append, List.append_assoc]
    exact .subgraph name hbody ih

/-- Actions that enter and leave nothing are balanced. -/
theorem of_staysInScope (h : ∀ action ∈ actions, action.staysInScope = true) :
    Balanced actions := by
  induction actions with
  | nil => exact .nil
  | cons action actions ih =>
    obtain ⟨hfirst, hrest⟩ := List.forall_mem_cons.1 h
    exact .cons hfirst (ih hrest)

/-- One subgraph by itself. -/
theorem singleton (name : Option String) {body : List Action} (h : Balanced body) :
    Balanced ([.enter name, .addScope] ++ body ++ [.elide, .leave]) := by
  rw [List.append_assoc]
  exact .subgraph name h .nil

end Balanced

/-- Links enter and leave nothing. -/
theorem balanced_linkActions (attrs : Attrs) (prev : List String) (elem : Statement) :
    Balanced (linkActions attrs prev elem) := by
  refine .of_staysInScope fun action haction => ?_
  rcases eq_of_mem_linkActions haction with rfl | ⟨v, w, rfl⟩ <;> rfl

mutual

/-- A statement leaves what it enters: only subgraphs are entered, and each is left at its end. -/
theorem balanced_actionsOf : ∀ stmt : Statement, Balanced (actionsOf stmt)
  | .node _ _ => .cons rfl (.cons rfl .nil)
  | .edge elems attrs => balanced_chainActions attrs [] elems
  | .subgraph id stmts => .singleton id (balanced_actionsOfAll stmts)
  | .attr _ _ => .cons rfl .nil
  | .inlineAttr _ => .cons rfl .nil
  | .unknown => .cons rfl .nil

/-- The actions of statements are balanced. -/
theorem balanced_actionsOfAll : ∀ stmts : List Statement, Balanced (actionsOfAll stmts)
  | [] => .nil
  | stmt :: rest => (balanced_actionsOf stmt).append (balanced_actionsOfAll rest)

/-- The elements of a chain leave what they enter, and links enter nothing. -/
theorem balanced_chainActions (attrs : Attrs) (prev : List String) :
    ∀ elems : List Statement, Balanced (chainActions attrs prev elems)
  | [] => .nil
  | elem :: rest =>
    ((balanced_actionsOf elem).append (balanced_linkActions attrs prev elem)).append
      (balanced_chainActions attrs _ rest)

end

/-- The build in which a subgraph has been opened. -/
def Progress.opened (settings : Settings) (p : Progress) (name : Option String) : Progress :=
  perform settings (perform settings p (.enter name)) .addScope

/-- The id that a subgraph is given: its own, or a generated one. -/
def Progress.givenId (settings : Settings) (p : Progress) (name : Option String) : String :=
  (p.state.subgraphId settings.subgraphIdStem name).1

/-- The build in which the innermost open subgraph has been closed. -/
def Progress.closed (settings : Settings) (p : Progress) : Progress :=
  perform settings (perform settings p .elide) .leave

/-- The node of a subgraph that is opened is the innermost scope. -/
theorem Progress.scopes_opened (settings : Settings) (p : Progress) (name : Option String) :
    (p.opened settings name).scopes = p.givenId settings name :: p.scopes := by
  cases name <;> rfl

/-- The innermost scope is closed. -/
theorem Progress.scopes_closed (settings : Settings) (p : Progress) :
    (p.closed settings).scopes = p.scopes.tail := by
  obtain ⟨s, _ | ⟨id, outer⟩⟩ := p <;> rfl

/-- The open scopes change only when one is entered or left. -/
theorem scopes_perform_of_staysInScope (settings : Settings) (p : Progress)
    (h : action.staysInScope = true) : (perform settings p action).scopes = p.scopes := by
  cases action with
  | enter | addScope | elide | leave => cases h
  | addNode | mergeNode | attr | inlineAttr | link | skipStatement | skipElement => rfl

/-- Balanced actions leave the open subgraphs as they are. -/
theorem Balanced.scopes_performAll (settings : Settings) (h : Balanced actions) (p : Progress) :
    (performAll settings p actions).scopes = p.scopes := by
  induction h generalizing p with
  | nil => rfl
  | cons haction _ ih => exact (ih _).trans (scopes_perform_of_staysInScope settings p haction)
  | subgraph name _ _ ihbody ihrest =>
    rw [performAll_cons, performAll_cons, performAll_append, performAll_cons, performAll_cons]
    refine (ihrest _).trans ((Progress.scopes_closed settings _).trans ?_)
    exact congrArg List.tail ((ihbody _).trans (p.scopes_opened settings name))

/-- What every action inside a scope keeps, and the opening and the closing of every subgraph as a
whole, holds behind balanced actions if it holds before them. -/
theorem Balanced.invariant {P : Progress → Prop}
    (hstays : ∀ p action rest, Reaches settings doc p (action :: rest) →
      action.staysInScope = true → P p → P (perform settings p action))
    (hopens : ∀ p name rest, Reaches settings doc p (.enter name :: .addScope :: rest) → P p →
      P (p.opened settings name))
    (hcloses : ∀ p c outer rest, Reaches settings doc p (.elide :: .leave :: rest) →
      p.scopes = c :: outer → P p → P (p.closed settings))
    (h : Balanced actions) (hreach : Reaches settings doc p (actions ++ rest)) (hp : P p) :
    P (performAll settings p actions) := by
  induction h generalizing p rest with
  | nil => exact hp
  | cons haction _ ih => exact ih hreach.next (hstays p _ _ hreach haction hp)
  | @subgraph body after name hbalanced _ ihbody ihrest =>
    have hopened := hopens p name _ hreach hp
    rw [List.cons_append, List.cons_append, List.append_assoc] at hreach
    have hinside := hreach.next.next
    have hbody := ihbody hinside hopened
    -- the body closes what it opens, so its end meets the scope that was opened before it
    have hscopes : (performAll settings (p.opened settings name) body).scopes =
        p.givenId settings name :: p.scopes :=
      (hbalanced.scopes_performAll settings _).trans (p.scopes_opened settings name)
    have hclosed := ihrest hinside.nexts.next.next (hcloses _ _ _ _ hinside.nexts hscopes hbody)
    rwa [performAll_cons, performAll_cons, performAll_append, performAll_cons, performAll_cons]

/-! ### The actions before a position -/

/-- The actions before a position. -/
def Position.done : Position → List Action
  | .top before => actionsOfAll before
  | .inSubgraph outer id before => outer.done ++ .enter id :: .addScope :: actionsOfAll before
  | .inEdge outer attrs before => outer.done ++ chainActions attrs [] before

/-- The build just before a position is what the actions before the position make. -/
theorem Position.arrival_eq (settings : Settings) (doc : Document) (pos : Position) :
    pos.arrival settings doc = performAll settings (Progress.initial doc) pos.done := by
  induction pos with
  | top before => exact (performAll_actionsOfAll settings (Progress.initial doc) before).symm
  | inSubgraph outer id before ih =>
    rw [arrival, done, performAll_append, ← ih, performAll_cons, performAll_cons,
      performAll_actionsOfAll]
    rfl
  | inEdge outer attrs before ih =>
    rw [arrival, done, performAll_append, ← ih, performAll_chainActions]

/-- What a statement begins with if it makes sure of a node or opens a subgraph. -/
def opening : Statement → Option Action
  | .node id _ => some (.addNode id)
  | .subgraph id _ => some (.enter id)
  | _ => none

/-- Whether a statement may begin with an action. -/
def Action.isOpening : Action → Bool
  | .addNode _ => true
  | .enter _ => true
  | _ => false

/-- An action stands in a list behind the given ones. -/
def Follows (before : List Action) (action : Action) (actions : List Action) : Prop :=
  ∃ after, actions = before ++ action :: after

section Follows

variable {xs ys before : List Action} {first : Action}

theorem not_follows_nil : ¬ Follows before action [] := by
  rintro ⟨after, h⟩
  exact List.append_ne_nil_of_right_ne_nil _ (List.cons_ne_nil _ _) h.symm

/-- An action follows none of the others, or the first one and some of the rest. -/
theorem follows_cons : Follows before action (first :: xs) ↔
    before = [] ∧ action = first ∨ ∃ before', before = first :: before' ∧
      Follows before' action xs := by
  constructor
  · rintro ⟨after, h⟩
    rcases List.cons_eq_append_iff.1 h with ⟨rfl, heq⟩ | ⟨before', rfl, heq⟩
    · exact .inl ⟨rfl, (List.cons_eq_cons.1 heq).1⟩
    · exact .inr ⟨before', rfl, after, heq⟩
  · rintro (⟨rfl, rfl⟩ | ⟨before', rfl, after, rfl⟩)
    · exact ⟨xs, rfl⟩
    · exact ⟨after, rfl⟩

/-- An action of two lists stands in the first one, or behind all of it. -/
theorem follows_append : Follows before action (xs ++ ys) ↔
    Follows before action xs ∨ ∃ before', before = xs ++ before' ∧ Follows before' action ys := by
  induction xs generalizing before with
  | nil => simp [not_follows_nil]
  | cons first xs ih =>
    rw [List.cons_append, follows_cons, follows_cons, or_assoc]
    refine or_congr_right ⟨?_, ?_⟩
    · rintro ⟨before', rfl, h⟩
      rcases ih.1 h with hxs | ⟨before'', rfl, hys⟩
      · exact .inl ⟨before', rfl, hxs⟩
      · exact .inr ⟨before'', rfl, hys⟩
    · rintro (⟨before', rfl, h⟩ | ⟨before', rfl, h⟩)
      · exact ⟨before', rfl, ih.2 (.inl h)⟩
      · exact ⟨xs ++ before', rfl, ih.2 (.inr ⟨before', rfl, h⟩)⟩

/-- What follows some actions is one of them. -/
theorem Follows.mem (h : Follows before action xs) : action ∈ xs := by
  obtain ⟨after, rfl⟩ := h
  exact List.mem_append_right _ List.mem_cons_self

end Follows

/-- At a position with the given actions before it stands a statement that begins with an action. -/
def Begins (doc : Document) (before : List Action) (action : Action) : Prop :=
  ∃ pos stmt, StandsAt doc pos stmt ∧ opening stmt = some action ∧ pos.done = before

/-- No link makes sure of a node by a statement of its own, and none enters a subgraph. -/
private theorem not_mem_linkActions_of_isOpening (haction : action.isOpening = true) (attrs : Attrs)
    (prev : List String) (elem : Statement) : action ∉ linkActions attrs prev elem := by
  intro hmem
  rcases eq_of_mem_linkActions hmem with rfl | ⟨v, w, rfl⟩ <;> cases haction

mutual

/-- By induction on the statement, an opening action among its own is what it begins with, or what a
statement in it begins with. -/
private theorem begins_actionsOf (haction : action.isOpening = true) :
    ∀ (stmt : Statement) (pos : Position) (before : List Action),
    StandsAt doc pos stmt → Follows before action (actionsOf stmt) →
      Begins doc (pos.done ++ before) action
  | .node id attrs, pos, before, hpos, h => by
    rw [actionsOf, follows_cons] at h
    rcases h with ⟨rfl, rfl⟩ | ⟨before', -, h⟩
    · exact ⟨pos, _, hpos, rfl, (List.append_nil _).symm⟩
    · rw [List.mem_singleton.1 h.mem] at haction
      cases haction
  | .edge elems attrs, pos, before, hpos, h => by
    have hchain := begins_chainActions haction elems pos attrs [] before hpos h
    rwa [chainActions, List.append_nil] at hchain
  | .subgraph id stmts, pos, before, hpos, h => by
    rw [actionsOf, follows_append, follows_append, follows_cons] at h
    rcases h with ((⟨rfl, rfl⟩ | ⟨before', -, h⟩) | ⟨before', rfl, h⟩) | ⟨before', -, h⟩
    · exact ⟨pos, _, hpos, rfl, (List.append_nil _).symm⟩
    · rw [List.mem_singleton.1 h.mem] at haction
      cases haction
    · -- neither the node of the subgraph nor its end opens anything, so it stands in the body
      have hbody := begins_actionsOfAll haction stmts (.inSubgraph pos id)
        (pos.done ++ [.enter id, .addScope]) [] before'
        (fun xs stmt ys hstmts => .inSubgraph (hstmts ▸ hpos)) (fun _ => List.append_assoc ..) h
      rwa [actionsOfAll, List.append_nil, List.append_assoc] at hbody
    · rcases List.mem_pair.1 h.mem with rfl | rfl <;> cases haction
  | .attr _ _, _, _, _, h => by
    rw [List.mem_singleton.1 h.mem] at haction
    cases haction
  | .inlineAttr _, _, _, _, h => by
    rw [List.mem_singleton.1 h.mem] at haction
    cases haction
  | .unknown, _, _, _, h => by
    rw [List.mem_singleton.1 h.mem] at haction
    cases haction

/-- Statements that stand at the top or in a subgraph, behind those that have been seen. -/
private theorem begins_actionsOfAll (haction : action.isOpening = true) :
    ∀ (stmts : List Statement) (place : List Statement → Position) (done : List Action)
      (seen : List Statement) (before : List Action),
    (∀ xs stmt ys, stmts = xs ++ stmt :: ys → StandsAt doc (place (seen ++ xs)) stmt) →
    (∀ xs, done ++ actionsOfAll xs = (place xs).done) →
    Follows before action (actionsOfAll stmts) →
      Begins doc (done ++ actionsOfAll seen ++ before) action
  | [], _, _, _, _, _, _, h => absurd h not_follows_nil
  | stmt :: rest, place, done, seen, before, hplace, hdone, h => by
    rw [actionsOfAll, follows_append] at h
    rcases h with h | ⟨before', rfl, h⟩
    · have hpos := hplace [] stmt rest rfl
      rw [List.append_nil] at hpos
      rw [hdone]
      exact begins_actionsOf haction stmt _ before hpos h
    · have hrest := begins_actionsOfAll haction rest place done (seen ++ [stmt]) before'
        (fun xs inner ys hstmts => ?_) hdone h
      · rwa [actionsOfAll_append, actionsOfAll, actionsOfAll, List.append_nil, List.append_assoc,
          List.append_assoc, ← List.append_assoc done] at hrest
      · rw [List.append_assoc]
        exact hplace (stmt :: xs) inner ys (congrArg (stmt :: ·) hstmts)

/-- The same for the elements of a chain, behind those that have been seen. -/
private theorem begins_chainActions (haction : action.isOpening = true) :
    ∀ (elems : List Statement) (pos : Position) (attrs : Attrs) (seen : List Statement)
      (before : List Action),
    StandsAt doc pos (.edge (seen ++ elems) attrs) →
    Follows before action (chainActions attrs (seen.foldl nextEnds []) elems) →
      Begins doc (pos.done ++ chainActions attrs [] seen ++ before) action
  | [], _, _, _, _, _, h => absurd h not_follows_nil
  | elem :: rest, pos, attrs, seen, before, hpos, h => by
    rw [chainActions, follows_append, follows_append] at h
    rcases h with (h | ⟨before', -, h⟩) | ⟨before', rfl, h⟩
    · exact begins_actionsOf haction elem (.inEdge pos attrs seen) before (.inEdge hpos) h
    · exact absurd h.mem (not_mem_linkActions_of_isOpening haction attrs _ elem)
    · have hrest := begins_chainActions haction rest pos attrs (seen ++ [elem]) before'
        (by rwa [List.append_assoc]) (by rwa [List.foldl_append])
      simpa only [chainActions_append, chainActions, List.append_nil, List.append_assoc] using hrest

end

/-- Where a node is made sure of by its own statement, or a subgraph is entered, the build has
arrived at the position of that statement. -/
theorem Reaches.exists_standsAt (h : Reaches settings doc p (action :: rest))
    (haction : action.isOpening = true) :
    ∃ pos stmt, StandsAt doc pos stmt ∧ opening stmt = some action ∧
      pos.arrival settings doc = p := by
  obtain ⟨before, hbefore, rfl⟩ := h.eq_performAll
  obtain ⟨pos, stmt, hpos, hopening, hdone⟩ := begins_actionsOfAll haction doc.stmts .top [] []
    before (fun xs stmt ys hstmts => .top hstmts) (fun _ => rfl) ⟨rest, hbefore⟩
  refine ⟨pos, stmt, hpos, hopening, ?_⟩
  rw [pos.arrival_eq, hdone]
  rfl

/-- Where a subgraph is entered, it stands at the position at which the build has arrived. -/
theorem Reaches.exists_subgraph {name : Option String}
    (h : Reaches settings doc p (.enter name :: rest)) :
    ∃ pos stmts, StandsAt doc pos (.subgraph name stmts) ∧ pos.arrival settings doc = p := by
  obtain ⟨pos, stmt, hpos, hopening, harrival⟩ := h.exists_standsAt rfl
  cases stmt with
  | subgraph name' stmts =>
    obtain rfl : name' = name := Action.enter.inj (Option.some.inj hopening)
    exact ⟨pos, stmts, hpos, harrival⟩
  | node | edge | attr | inlineAttr | unknown => cases hopening

/-- Where a node is made sure of by its own statement, this stands at the position at which the
build has arrived. -/
theorem Reaches.exists_node {id : String} (h : Reaches settings doc p (.addNode id :: rest)) :
    ∃ pos attrs, StandsAt doc pos (.node id attrs) ∧ pos.arrival settings doc = p := by
  obtain ⟨pos, stmt, hpos, hopening, harrival⟩ := h.exists_standsAt rfl
  cases stmt with
  | node id' attrs =>
    obtain rfl : id' = id := Action.addNode.inj (Option.some.inj hopening)
    exact ⟨pos, attrs, hpos, harrival⟩
  | edge | subgraph | attr | inlineAttr | unknown => cases hopening

end ClusterGraph.Build
