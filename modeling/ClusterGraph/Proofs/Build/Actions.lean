import ClusterGraph.Build
import Mathlib.Data.List.Basic

/-!
# A build as a sequence of actions

What a build does for a statement is a list of **actions** that can be read off the statement
alone: entering and leaving subgraphs, making sure that a node is there, merging attributes,
linking two nodes, reporting. Only the ids of anonymous subgraphs depend on the run, so they are
kept in a stack beside the state (`Progress.scopes`). Performing the actions of a document in turn
is its build (`performAll_actionsOf`, `Reaches.build`).

`Reaches settings doc p rest` says that the build of a document arrives at `p` with the actions
`rest` still to come. A property of all states of a build is proved through `Reaches.invariant`,
with one case for each action.
-/

namespace ClusterGraph.Build

/-- What a build does in one step. -/
inductive Action where
  /-- Fixes the id of a subgraph and opens its scope of defaults. -/
  | enter (id : Option String)
  /-- Makes sure that the node of the subgraph just entered is there. -/
  | addScope
  /-- Makes sure that a node is there. -/
  | addNode (id : String)
  /-- Merges the attributes of a node statement. -/
  | mergeNode (id : String) (attrs : Attrs)
  /-- Carries out an attribute statement. -/
  | attr (target : AttrTarget) (attrs : Attrs)
  /-- Merges attributes into the enclosing scope. -/
  | inlineAttr (attrs : Attrs)
  /-- Links two nodes. -/
  | link (v w : String) (attrs : Attrs)
  /-- Reports a statement of an unknown kind. -/
  | skipStatement
  /-- Reports an element of a chain that stands for no nodes. -/
  | skipElement
  /-- Removes the node of the innermost open subgraph if nothing lies in it. -/
  | elide
  /-- Closes the innermost open subgraph with its scope of defaults. -/
  | leave

/-- A build under way: its state, and the ids of the open subgraphs, the innermost first. -/
structure Progress where
  state : State
  scopes : List String

/-- The innermost open subgraph. -/
def Progress.scope (p : Progress) : Option String := p.scopes.head?

/-- The graph so far. -/
def Progress.graph (p : Progress) : Graph := p.state.graph

/-- Performs one action. -/
def perform (settings : Settings) (p : Progress) : Action → Progress
  | .enter id =>
    let (id, s) := p.state.subgraphId settings.subgraphIdStem id
    ⟨{ s with defaults := s.defaults.push }, id :: p.scopes⟩
  | .addScope =>
    match p.scopes with
    | [] => p
    | id :: outer => ⟨p.state.ensureNode id outer.head?, p.scopes⟩
  | .addNode id => ⟨p.state.ensureNode id p.scope, p.scopes⟩
  | .mergeNode id attrs =>
    let merged (label : PlacedLabel) := label.merge attrs (nodeGeometry settings attrs)
    ⟨{ p.state with graph := p.state.graph.modifyNode id merged }, p.scopes⟩
  | .attr target attrs => ⟨attrStatement settings p.state p.scope target attrs, p.scopes⟩
  | .inlineAttr attrs => ⟨p.state.mergeIntoScope p.scope attrs none, p.scopes⟩
  | .link v w attrs =>
    ⟨p.state.connect settings.edgeNameStem v w attrs (edgePoints settings attrs), p.scopes⟩
  | .skipStatement => ⟨p.state.report .unknownStatementKind, p.scopes⟩
  | .skipElement => ⟨p.state.report .invalidEdgeEndpoint, p.scopes⟩
  | .elide =>
    match p.scopes with
    | [] => p
    | id :: _ =>
      ⟨if (p.state.graph.children id).isEmpty then p.state.removeNode id else p.state, p.scopes⟩
  | .leave => ⟨{ p.state with defaults := p.state.defaults.pop }, p.scopes.tail⟩

/-- Performs actions in turn. -/
def performAll (settings : Settings) (p : Progress) (actions : List Action) : Progress :=
  actions.foldl (perform settings) p

/-! ### The actions of a statement -/

/-- What comes behind an element of a chain: the links with the nodes before, row by row, or the
report that the element is left out. -/
def linkActions (attrs : Attrs) (prev : List String) (elem : Statement) : List Action :=
  match endpoints elem with
  | none => [.skipElement]
  | some curr => prev.flatMap fun v => curr.map fun w => .link v w attrs

/-- The nodes that the next element of a chain is linked with. -/
def nextEnds (prev : List String) (elem : Statement) : List String := (endpoints elem).getD prev

mutual

/-- The actions of a statement. -/
def actionsOf : Statement → List Action
  | .node id attrs => [.addNode id, .mergeNode id attrs]
  | .edge elems attrs => chainActions attrs [] elems
  | .subgraph id stmts => [.enter id, .addScope] ++ actionsOfAll stmts ++ [.elide, .leave]
  | .attr target attrs => [.attr target attrs]
  | .inlineAttr attrs => [.inlineAttr attrs]
  | .unknown => [.skipStatement]

/-- The actions of statements one after another. -/
def actionsOfAll : List Statement → List Action
  | [] => []
  | stmt :: rest => actionsOf stmt ++ actionsOfAll rest

/-- The actions of the elements of a chain behind given nodes. -/
def chainActions (attrs : Attrs) (prev : List String) : List Statement → List Action
  | [] => []
  | elem :: rest =>
    actionsOf elem ++ linkActions attrs prev elem ++ chainActions attrs (nextEnds prev elem) rest

end

/-- What comes behind an element of a chain is a report or made of links. -/
theorem eq_of_mem_linkActions {attrs : Attrs} {prev : List String} {elem : Statement}
    {action : Action} (h : action ∈ linkActions attrs prev elem) :
    action = .skipElement ∨ ∃ v w, action = .link v w attrs := by
  rw [linkActions] at h
  cases hends : endpoints elem with
  | none =>
    rw [hends] at h
    exact .inl (List.mem_singleton.1 h)
  | some curr =>
    rw [hends] at h
    obtain ⟨v, -, h⟩ := List.mem_flatMap.1 h
    obtain ⟨w, -, rfl⟩ := List.mem_map.1 h
    exact .inr ⟨v, w, rfl⟩

theorem enter_not_mem_linkActions (id : Option String) (attrs : Attrs) (prev : List String)
    (elem : Statement) : .enter id ∉ linkActions attrs prev elem := by
  intro h
  rcases eq_of_mem_linkActions h with heq | ⟨v, w, heq⟩ <;> cases heq

section PerformAll

variable (settings : Settings)

theorem performAll_append (p : Progress) (xs ys : List Action) :
    performAll settings p (xs ++ ys) = performAll settings (performAll settings p xs) ys :=
  List.foldl_append

theorem performAll_cons (p : Progress) (action : Action) (actions : List Action) :
    performAll settings p (action :: actions) =
      performAll settings (perform settings p action) actions := rfl

theorem performAll_singleton (p : Progress) (action : Action) :
    performAll settings p [action] = perform settings p action := rfl

private theorem performAll_links (attrs : Attrs) (v : String) (targets : List String) (s : State)
    (scopes : List String) :
    performAll settings ⟨s, scopes⟩ (targets.map fun w => .link v w attrs) =
      ⟨targets.foldl (fun s w => s.connect settings.edgeNameStem v w attrs
        (edgePoints settings attrs)) s, scopes⟩ := by
  induction targets generalizing s with
  | nil => rfl
  | cons w targets ih => exact ih _

theorem performAll_connectAll (attrs : Attrs) (sources targets : List String) (s : State)
    (scopes : List String) :
    performAll settings ⟨s, scopes⟩
        (sources.flatMap fun v => targets.map fun w => .link v w attrs) =
      ⟨s.connectAll settings.edgeNameStem sources targets attrs (edgePoints settings attrs),
        scopes⟩ := by
  induction sources generalizing s with
  | nil => rfl
  | cons v sources ih =>
    rw [List.flatMap_cons, performAll_append, performAll_links]
    exact ih _

theorem performAll_linkActions (attrs : Attrs) (prev : List String) (elem : Statement)
    (p : Progress) : performAll settings p (linkActions attrs prev elem) =
      ⟨(extendChain settings attrs prev elem p.state).2, p.scopes⟩ := by
  rw [linkActions, extendChain]
  cases endpoints elem with
  | none => rfl
  | some curr => exact performAll_connectAll settings attrs prev curr p.state p.scopes

theorem nextEnds_eq (attrs : Attrs) (prev : List String) (elem : Statement) (s : State) :
    (extendChain settings attrs prev elem s).1 = nextEnds prev elem := by
  rw [extendChain, nextEnds]
  cases endpoints elem <;> rfl

mutual

/-- Performing the actions of a statement carries it out and leaves the open subgraphs alone. -/
theorem performAll_actionsOf (p : Progress) : ∀ stmt : Statement,
    performAll settings p (actionsOf stmt) = ⟨statement settings p.scope p.state stmt, p.scopes⟩
  | .node id attrs => rfl
  | .edge elems attrs => by
    rw [actionsOf, statement]
    exact performAll_chainActions attrs [] p elems
  | .subgraph id stmts => by
    rw [actionsOf, performAll_append, performAll_append, performAll_actionsOfAll _ stmts, statement]
    rfl
  | .attr target attrs => rfl
  | .inlineAttr attrs => rfl
  | .unknown => rfl

theorem performAll_actionsOfAll (p : Progress) : ∀ stmts : List Statement,
    performAll settings p (actionsOfAll stmts) =
      ⟨statements settings p.scope p.state stmts, p.scopes⟩
  | [] => rfl
  | stmt :: rest => by
    rw [actionsOfAll, performAll_append, performAll_actionsOf p stmt,
      performAll_actionsOfAll _ rest, statements]
    rfl

theorem performAll_chainActions (attrs : Attrs) (prev : List String) (p : Progress) :
    ∀ elems : List Statement, performAll settings p (chainActions attrs prev elems) =
      ⟨chain settings p.scope attrs prev p.state elems, p.scopes⟩
  | [] => rfl
  | elem :: rest => by
    rw [chainActions, performAll_append, performAll_append, performAll_actionsOf p elem,
      performAll_linkActions, performAll_chainActions attrs _ _ rest, chain,
      ← nextEnds_eq settings attrs]
    rfl

end

end PerformAll

/-! ### The states of a build -/

/-- The build before its first action. -/
def Progress.initial (doc : Document) : Progress := ⟨start doc, []⟩

/-- The build of a document arrives at a point, with the given actions still to come. -/
inductive Reaches (settings : Settings) (doc : Document) : Progress → List Action → Prop where
  | initial : Reaches settings doc (Progress.initial doc) (actionsOfAll doc.stmts)
  | next {p : Progress} {action : Action} {rest : List Action}
      (h : Reaches settings doc p (action :: rest)) :
      Reaches settings doc (perform settings p action) rest

namespace Reaches

variable {settings : Settings} {doc : Document} {p : Progress}

theorem nexts {actions rest : List Action} (h : Reaches settings doc p (actions ++ rest)) :
    Reaches settings doc (performAll settings p actions) rest := by
  induction actions generalizing p with
  | nil => exact h
  | cons action actions ih => exact ih (.next h)

/-- All actions of the document are still to come, and nothing behind them. -/
theorem initial_append_nil (settings : Settings) (doc : Document) :
    Reaches settings doc (Progress.initial doc) (actionsOfAll doc.stmts ++ []) := by
  rw [List.append_nil]
  exact .initial

/-- The build arrives at its result. -/
theorem build (settings : Settings) (doc : Document) :
    Reaches settings doc
      ⟨statements settings none (start doc) doc.stmts, []⟩ [] := by
  have h := (initial_append_nil settings doc).nexts
  rwa [performAll_actionsOfAll] at h

/-- The actions to come are a last part of the actions of the document. -/
theorem isSuffix {rest : List Action} (h : Reaches settings doc p rest) :
    rest <:+ actionsOfAll doc.stmts := by
  induction h with
  | initial => exact List.suffix_refl _
  | next _ ih => exact (List.suffix_cons _ _).trans ih

/-- What holds before the first action and is kept by every action of the document holds at every
point of its build. -/
theorem invariant {P : Progress → Prop} {rest : List Action} (h : Reaches settings doc p rest)
    (hinitial : P (Progress.initial doc))
    (hperform : ∀ p, ∀ action ∈ actionsOfAll doc.stmts, P p → P (perform settings p action)) :
    P p := by
  induction h with
  | initial => exact hinitial
  | next h ih => exact hperform _ _ (h.isSuffix.subset List.mem_cons_self) ih

/-- A point of the build is what the actions before it make. -/
theorem eq_performAll {rest : List Action} (h : Reaches settings doc p rest) :
    ∃ done, actionsOfAll doc.stmts = done ++ rest ∧
      p = performAll settings (Progress.initial doc) done := by
  induction h with
  | initial => exact ⟨[], rfl, rfl⟩
  | @next p action rest h ih =>
    obtain ⟨done, hdone, rfl⟩ := ih
    refine ⟨done ++ [action], by rw [hdone, List.append_assoc]; rfl, ?_⟩
    rw [performAll_append]
    rfl

/-- The build arrives at one point only with given actions still to come. -/
theorem unique {q : Progress} {rest : List Action} (hp : Reaches settings doc p rest)
    (hq : Reaches settings doc q rest) : p = q := by
  obtain ⟨done, hdone, rfl⟩ := hp.eq_performAll
  obtain ⟨done', hdone', rfl⟩ := hq.eq_performAll
  rw [List.append_cancel_right (hdone.symm.trans hdone')]

/-- The build arrives at every point of its sequence of actions. -/
theorem exists_of_isSuffix (settings : Settings) {rest : List Action}
    (h : rest <:+ actionsOfAll doc.stmts) : ∃ p, Reaches settings doc p rest := by
  obtain ⟨done, hdone⟩ := h
  have hinitial : Reaches settings doc (Progress.initial doc) (done ++ rest) := hdone ▸ .initial
  exact ⟨_, hinitial.nexts⟩

/-- Two builds of the same statements perform the same actions: what holds of them before the first
action and is kept by every action holds of their results. -/
theorem lockstep {settings' : Settings} {doc' : Document} {R : Progress → Progress → Prop}
    (hstmts : doc'.stmts = doc.stmts)
    (hinitial : R (Progress.initial doc) (Progress.initial doc'))
    (hperform : ∀ p p' action rest, Reaches settings doc p (action :: rest) →
      Reaches settings' doc' p' (action :: rest) → R p p' →
      R (perform settings p action) (perform settings' p' action)) :
    R ⟨statements settings none (start doc) doc.stmts, []⟩
      ⟨statements settings' none (start doc') doc'.stmts, []⟩ := by
  have hrun : ∀ actions p p', Reaches settings doc p actions → Reaches settings' doc' p' actions →
      R p p' → R (performAll settings p actions) (performAll settings' p' actions) := by
    intro actions
    induction actions with
    | nil => exact fun _ _ _ _ hR => hR
    | cons action actions ih =>
      exact fun p p' h h' hR => ih _ _ (.next h) (.next h') (hperform p p' action actions h h' hR)
  have hinitial' : Reaches settings' doc' (Progress.initial doc') (actionsOfAll doc.stmts) := by
    rw [← hstmts]
    exact .initial
  have hfinal := hrun _ _ _ .initial hinitial' hinitial
  rw [performAll_actionsOfAll, performAll_actionsOfAll, ← hstmts] at hfinal
  rw [← hstmts]
  exact hfinal

end Reaches

/-! ### Tests of all steps -/

/-- Whether a test succeeds at every step of given actions. -/
def everyStep (settings : Settings) (test : Progress → Action → Bool) (p : Progress) :
    List Action → Bool
  | [] => true
  | action :: rest => test p action && everyStep settings test (perform settings p action) rest

theorem test_of_everyStep {settings : Settings} {test : Progress → Action → Bool} {p : Progress}
    {before after : List Action} {action : Action}
    (h : everyStep settings test p (before ++ action :: after) = true) :
    test (performAll settings p before) action = true := by
  induction before generalizing p with
  | nil => exact (Bool.and_eq_true_iff.1 h).1
  | cons first before ih => exact ih (Bool.and_eq_true_iff.1 h).2

/-- For a given document it can be computed what holds at every step of its build. -/
theorem Reaches.test_of_everyStep {settings : Settings} {doc : Document} {p : Progress}
    {test : Progress → Action → Bool} {action : Action} {rest : List Action}
    (h : Reaches settings doc p (action :: rest))
    (hevery : everyStep settings test (Progress.initial doc) (actionsOfAll doc.stmts) = true) :
    test p action = true := by
  obtain ⟨done, hdone, rfl⟩ := h.eq_performAll
  rw [hdone] at hevery
  exact Build.test_of_everyStep hevery

end ClusterGraph.Build
