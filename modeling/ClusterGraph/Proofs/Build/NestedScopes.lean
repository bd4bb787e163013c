import ClusterGraph.Proofs.Build.AddedNodes
import ClusterGraph.Proofs.Build.Balance

/-!
# Subgraphs inside subgraphs of the same id

A subgraph takes its node away at its end if nothing lies in it, and the node is missing from there
on if a subgraph of the same id is still open. Nothing else makes the node of an open subgraph go
away: as long as no subgraph lies in one that is given the same id (`NestsId`), every open subgraph
has its node whenever a statement in it is carried out. So only such an id can be reported as a
missing scope, or as that of a node which would lie in itself (`build_missing_scope`). All of this
holds whatever the ids are like.
-/

namespace ClusterGraph

/-- The subgraph that a diagnostic is about. -/
def Diagnostic.subgraph? : Diagnostic → Option String
  | missingScope id => some id
  | selfNesting id => some id
  | _ => none

namespace Build

variable {settings : Settings} {doc : Document} {p : Progress} {action : Action}
  {actions rest : List Action} {id x : String} {scope : Option String} {d : Diagnostic}

/-! ### What is reported about subgraphs -/

namespace State

variable {s : State}

/-- Making sure of a node reports its scope only when this is the node itself, which is missing. -/
theorem mem_diagnostics_ensureNode (hd : d.subgraph? = some x)
    (h : d ∈ (s.ensureNode id scope).diagnostics) :
    d ∈ s.diagnostics ∨ scope = some x ∧ id = x ∧ x ∉ s.graph.nodeIds := by
  -- what the graph rejects is reported without the id of a subgraph
  have hrejected (cause : GraphError) (hmem : d ∈ s.diagnostics ++ [.rejected cause]) :
      d ∈ s.diagnostics := by
    rcases List.mem_append.1 hmem with hmem | hmem
    · exact hmem
    · rw [List.mem_singleton.1 hmem] at hd
      cases hd
  rw [ensureNode] at h
  split at h
  · exact .inl h
  · next hid =>
    rw [Bool.not_eq_true, Graph.hasNode_eq_false_iff] at hid
    cases scope with
    | none => exact .inl h
    | some c =>
      dsimp only at h
      split at h
      · next hc =>
        rcases List.mem_append.1 h with h | h
        · exact .inl h
        · rw [List.mem_singleton.1 h] at hd
          obtain rfl := Option.some.inj hd
          exact .inr ⟨congrArg some hc, rfl, hid⟩
      · split at h
        · exact .inl h
        · exact .inl (hrejected _ h)

/-- Attributes of a scope are dropped only when its node is missing. -/
theorem mem_diagnostics_mergeIntoScope {attrs : Attrs} {geometry : Option Geometry}
    (hd : d.subgraph? = some x) (h : d ∈ (s.mergeIntoScope scope attrs geometry).diagnostics) :
    d ∈ s.diagnostics ∨ scope = some x ∧ x ∉ s.graph.nodeIds := by
  unfold mergeIntoScope at h
  split at h
  · exact .inl h
  · split at h
    · exact .inl h
    · next hid =>
      rw [Bool.not_eq_true, Graph.hasNode_eq_false_iff] at hid
      rcases List.mem_append.1 h with h | h
      · exact .inl h
      · rw [List.mem_singleton.1 h] at hd
        obtain rfl := Option.some.inj hd
        exact .inr ⟨rfl, hid⟩

/-- Links report nothing about subgraphs. -/
theorem mem_diagnostics_connect {stem v w : String} {attrs : Attrs} {points : Option (List Point)}
    (hd : d.subgraph? = some x) (h : d ∈ (s.connect stem v w attrs points).diagnostics) :
    d ∈ s.diagnostics := by
  have hname : (s.nextEdgeName stem v w).2.diagnostics = s.diagnostics := by
    rw [s.nextEdgeName_snd]
  rw [connect] at h
  dsimp only at h
  split at h
  · rwa [hname] at h
  · split at h
    · rwa [hname] at h
    · rw [report, hname] at h
      rcases List.mem_append.1 h with h | h
      · exact h
      · rw [List.mem_singleton.1 h] at hd
        cases hd

end State

/-- Inside a subgraph only its own id is reported, and only when its node is missing. -/
theorem mem_diagnostics_perform (haction : action.staysInScope = true)
    (hd : d.subgraph? = some x) (h : d ∈ (perform settings p action).state.diagnostics) :
    d ∈ p.state.diagnostics ∨ p.scope = some x ∧ x ∉ p.graph.nodeIds := by
  have hreport (d' : Diagnostic) (hnone : d'.subgraph? = none)
      (hmem : d ∈ (p.state.report d').diagnostics) : d ∈ p.state.diagnostics := by
    rcases List.mem_append.1 hmem with hmem | hmem
    · exact hmem
    · rw [List.mem_singleton.1 hmem, hnone] at hd
      cases hd
  cases action with
  | addNode id =>
    exact (State.mem_diagnostics_ensureNode hd h).imp_right fun ⟨hscope, _, hx⟩ => ⟨hscope, hx⟩
  | mergeNode => exact .inl h
  | attr target attrs =>
    cases target with
    | graph => exact State.mem_diagnostics_mergeIntoScope hd h
    | node => exact .inl h
    | edge => exact .inl h
  | inlineAttr attrs => exact State.mem_diagnostics_mergeIntoScope hd h
  | link => exact .inl (State.mem_diagnostics_connect hd h)
  | skipStatement => exact .inl (hreport _ rfl h)
  | skipElement => exact .inl (hreport _ rfl h)
  | enter | addScope | elide | leave => cases haction

/-! ### The nodes of open subgraphs -/

/-- Whatever is open under an id is open once, its node is there, and nothing has been reported
about it. -/
structure Progress.HasScope (p : Progress) (id : String) : Prop where
  once : p.scopes.count id ≤ 1
  mem : id ∈ p.scopes → id ∈ p.graph.nodeIds
  silent : ∀ d ∈ p.state.diagnostics, d.subgraph? ≠ some id

/-- No subgraph is entered with an id while a subgraph with this id is open. -/
def NotReentered (settings : Settings) (doc : Document) (id : String) : Prop :=
  ∀ p name rest, Reaches settings doc p (.enter name :: rest) →
    p.givenId settings name = id → id ∉ p.scopes

/-- The end of a subgraph takes away no other node than its own. -/
theorem mem_nodeIds_elide {settings : Settings} (hx : x ∈ p.graph.nodeIds)
    (hscope : p.scope ≠ some x) : x ∈ (perform settings p .elide).graph.nodeIds := by
  obtain ⟨s, _ | ⟨id, outer⟩⟩ := p
  · exact hx
  · have hne : x ≠ id := fun heq => hscope (congrArg some heq.symm)
    by_cases hempty : (s.graph.children id).isEmpty = true
    · have hedges := Graph.SameNodes.foldl (fun g (ref : EdgeRef) =>
        Graph.sameNodes_removeEdge g ref.source ref.target ref.name)
        ((s.graph.nodeEdges? id none).getD []) s.graph
      simp only [perform, if_pos hempty, Progress.graph, State.removeNode,
        (Graph.removeNode_nodes _ id).1, hedges.nodeIds]
      exact (List.mem_erase_of_ne hne).2 hx
    · simp only [perform, if_neg hempty]
      exact hx

theorem diagnostics_elide (settings : Settings) (p : Progress) :
    (perform settings p .elide).state.diagnostics = p.state.diagnostics := by
  obtain ⟨s, _ | ⟨id, outer⟩⟩ := p
  · rfl
  · simp only [perform]
    split <;> rfl

namespace Progress.HasScope

theorem perform (h : p.HasScope id) (settings : Settings) (haction : action.staysInScope = true) :
    (perform settings p action).HasScope id := by
  have hscopes := scopes_perform_of_staysInScope settings p haction
  have helide : action ≠ .elide := by
    rintro rfl
    cases haction
  refine ⟨hscopes ▸ h.once, fun hid => ?_, fun d hmem hd => ?_⟩
  · rw [hscopes] at hid
    exact (addsNodes_perform settings p helide).mem id (h.mem hid)
  · rcases mem_diagnostics_perform haction hd hmem with hmem | ⟨hscope, hid⟩
    · exact h.silent d hmem hd
    · exact hid (h.mem (List.mem_of_mem_head? hscope))

/-- A subgraph is opened that is given another id, or this one while it is not open. -/
theorem opened (h : p.HasScope id) {name : Option String}
    (hnew : p.givenId settings name = id → id ∉ p.scopes) :
    (p.opened settings name).HasScope id := by
  have hscopes := p.scopes_opened settings name
  have hmem : id ∈ (p.opened settings name).scopes →
      id ∈ (p.opened settings name).graph.nodeIds := by
    intro hid
    rw [hscopes] at hid
    have hopening : Action.elide ∉ [Action.enter name, .addScope] := by simp
    rcases List.mem_cons.1 hid with rfl | hid
    · cases name <;> exact State.mem_nodeIds_ensureNode _ _ p.scopes.head?
    · exact mem_nodeIds_performAll settings hopening (h.mem hid)
  refine ⟨?_, hmem, fun d hd hsubgraph => ?_⟩
  · rw [hscopes]
    by_cases hgiven : p.givenId settings name = id
    · have hcount : p.scopes.count id = 0 := List.count_eq_zero.2 (hnew hgiven)
      rw [hgiven, List.count_cons_self]
      omega
    · rw [List.count_cons_of_ne hgiven]
      exact h.once
  · -- a node that would lie in itself has the id of the subgraph around it
    have hreported : d ∈ (Build.perform settings p (.enter name)).state.diagnostics ∨
        p.scope = some id ∧ p.givenId settings name = id ∧
          id ∉ (Build.perform settings p (.enter name)).graph.nodeIds :=
      State.mem_diagnostics_ensureNode hsubgraph hd
    have hentered : (Build.perform settings p (.enter name)).state.diagnostics =
        p.state.diagnostics := by
      cases name <;> rfl
    rw [hentered] at hreported
    rcases hreported with hd | ⟨hscope, hgiven, -⟩
    · exact h.silent d hd hsubgraph
    · exact hnew hgiven (List.mem_of_mem_head? hscope)

theorem closed (h : p.HasScope id) (settings : Settings) : (p.closed settings).HasScope id := by
  have hscopes := p.scopes_closed settings
  refine ⟨?_, fun hid => ?_, fun d hd => ?_⟩
  · rw [hscopes]
    exact Nat.le_trans (p.scopes.tail_sublist.count_le id) h.once
  · -- the subgraph that ends is not the one that is open further out
    rw [hscopes] at hid
    have hscope : p.scope ≠ some id := by
      intro hscope
      obtain ⟨outer, houter⟩ := List.head?_eq_some_iff.1 hscope
      have honce := h.once
      rw [houter] at honce hid
      rw [List.count_cons_self] at honce
      have hcount := List.count_pos_iff.2 hid
      rw [List.tail_cons] at hcount
      omega
    exact mem_nodeIds_elide (h.mem (List.mem_of_mem_tail hid)) hscope
  · have hdiagnostics : (p.closed settings).state.diagnostics = p.state.diagnostics :=
      diagnostics_elide settings p
    rw [hdiagnostics] at hd
    exact h.silent d hd

end Progress.HasScope

/-- Through balanced actions an open subgraph has its node. -/
theorem Balanced.hasScope (hid : NotReentered settings doc id) (h : Balanced actions)
    (hreach : Reaches settings doc p (actions ++ rest)) (hp : p.HasScope id) :
    (performAll settings p actions).HasScope id :=
  h.invariant (P := fun p => p.HasScope id) (fun _ _ _ _ haction hp => hp.perform settings haction)
    (fun p name _ hreach hp => hp.opened (hid p name _ hreach))
    (fun _ _ _ _ _ _ hp => hp.closed settings) hreach hp

theorem StandsAt.hasScope {pos : Position} {stmt : Statement}
    (hid : NotReentered settings doc id) (h : StandsAt doc pos stmt) :
    (pos.arrival settings doc).HasScope id := by
  -- along the position: what stands before the statement is balanced, and keeps the scope
  have hinitial : (Progress.initial doc).HasScope id := ⟨Nat.zero_le _, nofun, nofun⟩
  induction h with
  | @top before after stmt h =>
    have hreach : Reaches settings doc (Progress.initial doc)
        (actionsOfAll before ++ actionsOfAll (stmt :: after)) := by
      rw [← actionsOfAll_append, ← h]
      exact .initial
    rw [Position.arrival_eq]
    exact (balanced_actionsOfAll before).hasScope hid hreach hinitial
  | @inSubgraph outer name before after stmt houter ih =>
    obtain ⟨rest, hreach⟩ : ∃ rest, Reaches settings doc (outer.arrival settings doc)
        (actionsOf _ ++ rest) := houter.reaches
    rw [actionsOf, actionsOfAll_append] at hreach
    simp only [List.append_assoc] at hreach
    have hopened := ih.opened (hid _ name _ hreach)
    rw [Position.arrival_eq, Position.done, performAll_append, ← Position.arrival_eq,
      performAll_cons, performAll_cons]
    exact (balanced_actionsOfAll before).hasScope hid hreach.nexts hopened
  | @inEdge outer attrs before after stmt houter ih =>
    obtain ⟨rest, hreach⟩ : ∃ rest, Reaches settings doc (outer.arrival settings doc)
        (actionsOf _ ++ rest) := houter.reaches
    rw [actionsOf, chainActions_append, List.append_assoc] at hreach
    rw [Position.arrival_eq, Position.done, performAll_append, ← Position.arrival_eq]
    exact (balanced_chainActions attrs [] before).hasScope hid hreach ih

/-! ### Positions inside subgraphs -/

/-- A position lies in the subgraph at another position, at any depth, also through chains. -/
inductive Position.LiesIn : Position → Position → Prop where
  | body (outer : Position) (name : Option String) (before : List Statement) :
    LiesIn (.inSubgraph outer name before) outer
  | inSubgraph {pos outer : Position} (name : Option String) (before : List Statement)
      (h : LiesIn pos outer) : LiesIn (.inSubgraph pos name before) outer
  | inEdge {pos outer : Position} (attrs : Attrs) (before : List Statement)
      (h : LiesIn pos outer) : LiesIn (.inEdge pos attrs before) outer

/-- The id that a subgraph at a position is given: its own, or a generated one. -/
def Position.givenId (settings : Settings) (doc : Document) (pos : Position)
    (name : Option String) : String :=
  (pos.arrival settings doc).givenId settings name

/-- At a position stands one statement only. -/
theorem StandsAt.unique {pos : Position} {stmt stmt' : Statement} (h : StandsAt doc pos stmt)
    (h' : StandsAt doc pos stmt') : stmt = stmt' := by
  induction h generalizing stmt' with
  | top h =>
    cases h' with
    | top h' => exact (List.cons_eq_cons.1 (List.append_cancel_left (h.symm.trans h'))).1
  | inSubgraph _ ih =>
    cases h' with
    | inSubgraph houter' =>
      have hstmts := (Statement.subgraph.inj (ih houter')).2
      exact (List.cons_eq_cons.1 (List.append_cancel_left hstmts)).1
  | inEdge _ ih =>
    cases h' with
    | inEdge houter' =>
      have helems := (Statement.edge.inj (ih houter')).1
      exact (List.cons_eq_cons.1 (List.append_cancel_left helems)).1

/-- The subgraphs that are open at a position are those in which it lies. -/
theorem StandsAt.mem_scopes_iff {pos : Position} {stmt : Statement} (h : StandsAt doc pos stmt) :
    x ∈ (pos.arrival settings doc).scopes ↔ ∃ outer name stmts,
      StandsAt doc outer (.subgraph name stmts) ∧ pos.LiesIn outer ∧
        outer.givenId settings doc name = x := by
  induction h with
  | top h =>
    refine ⟨fun hx => absurd hx List.not_mem_nil, ?_⟩
    rintro ⟨outer, name, stmts, -, hlies, -⟩
    cases hlies
  | @inSubgraph pos own before after stmt houter ih =>
    -- the subgraph itself is the innermost open one, and around it lies what did already
    have hscopes : (Position.arrival settings doc (.inSubgraph pos own before)).scopes =
        pos.givenId settings doc own :: (pos.arrival settings doc).scopes := rfl
    rw [hscopes, List.mem_cons, ih]
    constructor
    · rintro (rfl | ⟨outer, name, stmts, hstands, hlies, hgiven⟩)
      · exact ⟨pos, own, _, houter, .body pos own before, rfl⟩
      · exact ⟨outer, name, stmts, hstands, .inSubgraph own before hlies, hgiven⟩
    · rintro ⟨outer, name, stmts, hstands, hlies, hgiven⟩
      cases hlies with
      | body =>
        obtain ⟨rfl, -⟩ := Statement.subgraph.inj (hstands.unique houter)
        exact .inl hgiven.symm
      | inSubgraph _ _ hlies => exact .inr ⟨outer, name, stmts, hstands, hlies, hgiven⟩
  | @inEdge pos attrs before after stmt houter ih =>
    -- an element of a chain lies in the same subgraphs as the chain
    have hscopes : (Position.arrival settings doc (.inEdge pos attrs before)).scopes =
        (pos.arrival settings doc).scopes := rfl
    rw [hscopes, ih]
    constructor
    · rintro ⟨outer, name, stmts, hstands, hlies, hgiven⟩
      exact ⟨outer, name, stmts, hstands, .inEdge attrs before hlies, hgiven⟩
    · rintro ⟨outer, name, stmts, hstands, hlies, hgiven⟩
      cases hlies with
      | inEdge _ _ hlies => exact ⟨outer, name, stmts, hstands, hlies, hgiven⟩

/-- A subgraph that is given an id lies in a subgraph that is given the same id. -/
def NestsId (settings : Settings) (doc : Document) (id : String) : Prop :=
  ∃ outer name stmts inner name' stmts', StandsAt doc outer (.subgraph name stmts) ∧
    StandsAt doc inner (.subgraph name' stmts') ∧ inner.LiesIn outer ∧
    outer.givenId settings doc name = id ∧ inner.givenId settings doc name' = id

/-- A subgraph is entered where it lies in another one exactly when this one is open. -/
theorem not_nestsId_iff : ¬ NestsId settings doc id ↔ NotReentered settings doc id := by
  constructor
  · intro hnot p name rest hreach hgiven hid
    obtain ⟨inner, stmts', hinner, rfl⟩ := hreach.exists_subgraph
    obtain ⟨outer, name', stmts, houter, hlies, hsame⟩ := hinner.mem_scopes_iff.1 hid
    exact hnot ⟨outer, name', stmts, inner, name, stmts', houter, hinner, hlies, hsame, hgiven⟩
  · rintro hnot ⟨outer, name, stmts, inner, name', stmts', houter, hinner, hlies, hsame, hgiven⟩
    obtain ⟨rest, hreach⟩ : ∃ rest, Reaches settings doc (inner.arrival settings doc)
        (actionsOf _ ++ rest) := hinner.reaches
    exact hnot _ name' _ hreach hgiven
      (hinner.mem_scopes_iff.2 ⟨outer, name, stmts, houter, hlies, hsame⟩)

/-- Only an id under which a subgraph lies in another one is reported as a missing scope or as that
of a node that would lie in itself. So where no subgraph lies in one of the same id nothing of this
kind is reported, and the node of every subgraph is there whenever a statement in it is carried
out. -/
theorem build_missing_scope (settings : Settings) (doc : Document) :
    (∀ id, .missingScope id ∈ (doc.build settings).diagnostics ∨
        .selfNesting id ∈ (doc.build settings).diagnostics → NestsId settings doc id) ∧
    ((∀ id, ¬ NestsId settings doc id) →
      (∀ id, .missingScope id ∉ (doc.build settings).diagnostics ∧
        .selfNesting id ∉ (doc.build settings).diagnostics) ∧
      ∀ outer name stmts inner stmt, StandsAt doc outer (.subgraph name stmts) →
        StandsAt doc inner stmt → inner.LiesIn outer →
          outer.givenId settings doc name ∈ (inner.arrival settings doc).graph.nodeIds) := by
  have hsilent : ∀ id, ¬ NestsId settings doc id →
      .missingScope id ∉ (doc.build settings).diagnostics ∧
        .selfNesting id ∉ (doc.build settings).diagnostics := by
    intro id hnot
    have hinitial : (Progress.initial doc).HasScope id := ⟨Nat.zero_le _, nofun, nofun⟩
    have hfinal := (balanced_actionsOfAll doc.stmts).hasScope (not_nestsId_iff.1 hnot)
      (Reaches.initial_append_nil settings doc) hinitial
    rw [performAll_actionsOfAll] at hfinal
    exact ⟨fun hd => hfinal.silent _ hd rfl, fun hd => hfinal.silent _ hd rfl⟩
  refine ⟨fun id hreported => ?_, fun hnot => ⟨fun id => hsilent id (hnot id), ?_⟩⟩
  · by_contra hnot
    obtain ⟨hmissing, hself⟩ := hsilent id hnot
    exact hreported.elim hmissing hself
  · intro outer name stmts inner stmt houter hinner hlies
    -- the subgraph is open where the inner statement stands, so it has its node there
    refine (hinner.hasScope (not_nestsId_iff.1 (hnot _))).mem ?_
    exact hinner.mem_scopes_iff.2 ⟨outer, name, stmts, houter, hlies, rfl⟩

/-- Whether an action enters no subgraph with the id of one that is open. -/
def entersAnewAt (settings : Settings) (p : Progress) : Action → Bool
  | .enter name => decide (p.givenId settings name ∉ p.scopes)
  | _ => true

/-- For a given document it can be computed that no subgraph lies in one of the same id. -/
theorem not_nestsId_of_everyStep (h : everyStep settings (entersAnewAt settings)
    (Progress.initial doc) (actionsOfAll doc.stmts) = true) (id : String) :
    ¬ NestsId settings doc id := by
  refine not_nestsId_iff.2 fun p name rest hreach hgiven => ?_
  rw [← hgiven]
  exact of_decide_eq_true (hreach.test_of_everyStep h)

/-- An empty subgraph inside one of the same id takes the node of both away. -/
def lostLabel : Document where
  kind := .digraph
  strict := false
  id := none
  stmts := [.subgraph (some "s") [.subgraph (some "s") [],
    .inlineAttr (Attrs.ofPairs [("label", "lost")])]]

/-- An anonymous subgraph in a chain, inside a subgraph whose id is used again behind it. -/
def reusedId : Document where
  kind := .graph
  strict := false
  id := none
  stmts := [.subgraph (some "s") [.edge [.node "a" Attrs.empty,
    .subgraph none [.subgraph (some "t") [], .node "b" Attrs.empty]] Attrs.empty],
    .subgraph (some "s") []]

/-- A label is lost where an id is used inside of itself, and none where it is used again later. -/
theorem build_missing_scope_lostLabel :
    .missingScope "s" ∈ (lostLabel.build Settings.default).diagnostics ∧
    NestsId Settings.default lostLabel "s" ∧
    (∀ id, ¬ NestsId Settings.default reusedId id) ∧
    (reusedId.build Settings.default).diagnostics = [] ∧
    (∀ id, .missingScope id ∉ (reusedId.build Settings.default).diagnostics) ∧
    ∃ outer inner, StandsAt reusedId outer (.subgraph none
        [.subgraph (some "t") [], .node "b" Attrs.empty]) ∧
      StandsAt reusedId inner (.node "b" Attrs.empty) ∧
      outer.givenId Settings.default reusedId none = "sg1" ∧
      "sg1" ∈ (inner.arrival Settings.default reusedId).graph.nodeIds := by
  have hreported : .missingScope "s" ∈ (lostLabel.build Settings.default).diagnostics := by
    decide +kernel
  have hnot : ∀ id, ¬ NestsId Settings.default reusedId id :=
    not_nestsId_of_everyStep (by decide +kernel)
  obtain ⟨hsilent, hthere⟩ := (build_missing_scope Settings.default reusedId).2 hnot
  let outer : Position := .inEdge (.inSubgraph (.top []) (some "s") []) Attrs.empty
    [.node "a" Attrs.empty]
  have houter : StandsAt reusedId outer (.subgraph none
      [.subgraph (some "t") [], .node "b" Attrs.empty]) := .inEdge (.inSubgraph (.top rfl))
  have hgiven : outer.givenId Settings.default reusedId none = "sg1" := by decide +kernel
  refine ⟨hreported, (build_missing_scope Settings.default lostLabel).1 "s" (.inl hreported), hnot,
    by decide +kernel, fun id => (hsilent id).1, outer,
    .inSubgraph outer none [.subgraph (some "t") []], houter, .inSubgraph houter, hgiven, ?_⟩
  rw [← hgiven]
  exact hthere outer none _ _ _ houter (.inSubgraph houter) (.body outer none _)

end Build

end ClusterGraph
