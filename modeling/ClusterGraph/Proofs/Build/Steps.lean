import ClusterGraph.Proofs.Build.PlainIds
import ClusterGraph.Proofs.Graph.Growth

/-!
# What one action of a build does

On a sound graph and with plain ids an action makes one of three changes (`Build.Change`): it adds
nodes at most, it puts one edge behind the others, or it removes one node without members together
with its edges; and the graph refuses nothing (`Build.effect_perform`). Every state of the build of
an admissible document is therefore sound (`Build.Reaches.sound`), and what every change keeps holds
throughout (`Build.Reaches.invariant_of_change`).
-/

namespace ClusterGraph.Build

variable {s s' : State} {settings : Settings} {doc : Document} {p : Progress} {action : Action}
  {rest : List Action} {id stem v w : String} {scope : Option String}

/-! ### Effects -/

/-- The changes of a build to the graph and to the counter. -/
inductive Change (stem : String) (s s' : State) : Prop where
  | grows (graph : Graph.Grown s.graph s'.graph) (counter : s.counter ≤ s'.counter)
  | links (v w : String) (hv : IsPlain v) (hw : IsPlain w)
      (graph : Graph.EdgeAdded (EdgeRef.ofEnds s.graph.directed v w (s.nextEdgeName stem v w).1)
        s.graph s'.graph)
      (counter : s'.counter = (s.nextEdgeName stem v w).2.counter)
  | removes (id : String) (children : s.graph.children id = [])
      (graph : Graph.WithoutNode id s.graph s'.graph) (counter : s'.counter = s.counter)

/-- A change of a build that the graph does not refuse. -/
structure Effect (stem : String) (s s' : State) : Prop where
  change : Change stem s s'
  rejected : ∀ cause, .rejected cause ∈ s'.diagnostics → .rejected cause ∈ s.diagnostics

/-- Every change leaves a sound graph. -/
theorem Change.sound (h : Change stem s s') : s'.graph.Sound := by
  cases h with
  | grows graph => exact graph.sound
  | links v w _ _ graph => exact graph.sound
  | removes id _ graph => exact graph.sound

/-- No change turns the graph into a directed or an undirected one. -/
theorem Change.directed (h : Change stem s s') : s'.graph.directed = s.graph.directed := by
  cases h with
  | grows graph => exact graph.links.directed
  | links v w _ _ graph => exact graph.directed
  | removes id _ graph => exact graph.directed

/-- Whether the graph holds several edges between two nodes is settled at the start. -/
theorem Change.multigraph (h : Change stem s s') : s'.graph.multigraph = s.graph.multigraph := by
  cases h with
  | grows graph => exact graph.links.multigraph
  | links v w _ _ graph => exact graph.multigraph
  | removes id _ graph => exact graph.multigraph

namespace State

/-! ### Nodes -/

/-- The graph with a new node, before the node is put into its scope. -/
def newNode (s : State) (id : String) : Graph :=
  s.graph.addNode id (PlacedLabel.ofAttrs s.defaults.current.node)

/-- Making sure that a node is there, written out: it is there already, it is added at the top or
under the id of its own scope, or it is added and put into its scope. -/
theorem ensureNode_cases (h : s.graph.Sound) (hid : IsPlain id) (hscope : ∀ c ∈ scope, IsPlain c) :
    (id ∈ s.graph.nodeIds ∧ s.ensureNode id scope = s) ∨
    (id ∉ s.graph.nodeIds ∧ scope = none ∧
      s.ensureNode id scope = { s with graph := s.newNode id }) ∨
    (id ∉ s.graph.nodeIds ∧ scope = some id ∧
      s.ensureNode id scope = report { s with graph := s.newNode id } (.selfNesting id)) ∨
    (id ∉ s.graph.nodeIds ∧ ∃ c, scope = some c ∧ c ≠ id ∧
      s.ensureNode id scope = { s with graph := (s.newNode id).nest id c }) := by
  by_cases hmem : id ∈ s.graph.nodeIds
  · refine .inl ⟨hmem, ?_⟩
    rw [ensureNode, if_pos (Graph.hasNode_iff.2 hmem)]
  · have hhas : ¬ s.graph.hasNode id = true := fun e => hmem (Graph.hasNode_iff.1 e)
    cases scope with
    | none =>
      refine .inr (.inl ⟨hmem, rfl, ?_⟩)
      simp only [ensureNode, if_neg hhas, Graph.setNode_of_not_mem hmem]
      rfl
    | some c =>
      refine .inr (.inr ?_)
      by_cases hc : c = id
      · refine .inl ⟨hmem, by rw [hc], ?_⟩
        simp only [ensureNode, if_neg hhas, if_pos hc, Graph.setNode_of_not_mem hmem]
        rfl
      · -- a new node has nothing in it, so putting it into its scope is never refused
        have hset := Graph.setParent_addNode h hmem hid
          (PlacedLabel.ofAttrs s.defaults.current.node) (hscope c rfl)
        refine .inr ⟨hmem, c, rfl, hc, ?_⟩
        simp only [ensureNode, if_neg hhas, if_neg hc, Graph.setNode_of_not_mem hmem, hset]
        rfl

/-- The graph grows by the node, and by the node of its scope when that is missing. -/
theorem effect_ensureNode (h : s.graph.Sound) (hid : IsPlain id)
    (hscope : ∀ c ∈ scope, IsPlain c) : Effect stem s (s.ensureNode id scope) := by
  have hadded (hnew : id ∉ s.graph.nodeIds) : Graph.Grown s.graph (s.newNode id) :=
    h.addNode hnew hid _
  rcases ensureNode_cases h hid hscope with ⟨-, heq⟩ | ⟨hnew, -, heq⟩ | ⟨hnew, -, heq⟩ |
    ⟨hnew, c, hc, hne, heq⟩ <;> rw [heq]
  · exact ⟨.grows (.refl h) (Nat.le_refl _), fun _ hcause => hcause⟩
  · exact ⟨.grows (hadded hnew) (Nat.le_refl _), fun _ hcause => hcause⟩
  · refine ⟨.grows (hadded hnew) (Nat.le_refl _), fun cause hcause => ?_⟩
    simpa [report] using hcause
  · refine ⟨.grows ?_ (Nat.le_refl _), fun _ hcause => hcause⟩
    exact Graph.grown_nest_addNode h hnew hid _ (hscope c hc) hne

/-- Changing the label of a node or of the graph. -/
theorem effect_of_same (h : s.graph.Sound) {g : Graph} (hnesting : Graph.SameNesting s.graph g)
    (hlinks : Graph.SameLinks s.graph g) : Effect stem s { s with graph := g } :=
  ⟨.grows (.of_same h hnesting hlinks) (Nat.le_refl _), fun _ hcause => hcause⟩

/-- The nodes and edges are the same, with another label on one of the nodes. -/
theorem effect_modifyNode (h : s.graph.Sound) (id : String) (f : PlacedLabel → PlacedLabel) :
    Effect stem s { s with graph := s.graph.modifyNode id f } :=
  effect_of_same h (Graph.sameNesting_modifyNode _ id f) (Graph.sameLinks_modifyNode _ id f)

/-- A report changes no graph, and it is not about a rejected change. -/
theorem effect_report (h : s.graph.Sound) {d : Diagnostic} (hd : ∀ cause, d ≠ .rejected cause) :
    Effect stem s (s.report d) := by
  refine ⟨.grows (.refl h) (Nat.le_refl _), fun cause hcause => ?_⟩
  rcases List.mem_append.1 hcause with hcause | hcause
  · exact hcause
  · exact absurd (List.mem_singleton.1 hcause).symm (hd cause)

/-- A label is changed, or a missing scope is reported. -/
theorem effect_mergeIntoScope (h : s.graph.Sound) (scope : Option String) (attrs : Attrs)
    (geometry : Option Geometry) : Effect stem s (s.mergeIntoScope scope attrs geometry) := by
  unfold mergeIntoScope
  split
  · exact effect_of_same h ⟨rfl, rfl, fun _ => rfl, fun _ => rfl, rfl⟩
      ⟨rfl, rfl, rfl, rfl, fun _ _ _ => Iff.rfl, rfl⟩
  · split
    · exact effect_modifyNode h _ _
    · exact effect_report h fun _ => Diagnostic.noConfusion

/-- A node without members is removed with its edges. -/
theorem effect_removeNode (h : s.graph.Sound) (hempty : s.graph.children id = []) :
    Effect stem s (s.removeNode id) := by
  have hlisted : s.graph.listed id = [] := by
    rwa [← Graph.children_eq_listed h.nested.compound]
  exact ⟨.removes id hempty (h.removeWithEdges hlisted) rfl, fun _ hcause => hcause⟩

/-! ### Edges -/

/-- The next name of an edge is none, or in a multigraph a generated one. -/
theorem nextEdgeName_cases (s : State) (stem v w : String) :
    (s.graph.multigraph && s.graph.hasEdge v w none) = false ∧
      s.nextEdgeName stem v w = (none, s) ∨
    s.graph.multigraph = true ∧ s.graph.hasEdge v w none = true ∧
      s.nextEdgeName stem v w =
        (some (numbered stem (s.counter + 1)), { s with counter := s.counter + 1 }) := by
  rw [nextEdgeName]
  split
  · next h => exact .inr ⟨(Bool.and_eq_true_iff.1 h).1, (Bool.and_eq_true_iff.1 h).2, rfl⟩
  · next h => exact .inl ⟨Bool.eq_false_iff.2 h, rfl⟩

/-- Choosing a name advances the counter at most. -/
theorem nextEdgeName_snd (s : State) (stem v w : String) :
    (s.nextEdgeName stem v w).2 =
      { s with counter := (s.nextEdgeName stem v w).2.counter } := by
  rcases s.nextEdgeName_cases stem v w with ⟨-, heq⟩ | ⟨-, -, heq⟩ <;> rw [heq]

/-- The numbers of names only go up. -/
theorem counter_le_nextEdgeName (s : State) (stem v w : String) :
    s.counter ≤ (s.nextEdgeName stem v w).2.counter := by
  rcases s.nextEdgeName_cases stem v w with ⟨-, heq⟩ | ⟨-, -, heq⟩
  · exact Nat.le_of_eq (by rw [heq])
  · rw [heq]
    exact Nat.le_succ _

/-- No edge is named with the key of the graph itself. -/
theorem nextEdgeName_ne (s : State) (stem v w : String) :
    (s.nextEdgeName stem v w).1 ≠ some Graph.rootId := by
  rcases s.nextEdgeName_cases stem v w with ⟨-, heq⟩ | ⟨-, -, heq⟩ <;> rw [heq]
  · exact nofun
  · exact fun e => numbered_ne_rootId _ _ (Option.some.inj e)

/-- Edges are named in multigraphs only. -/
theorem multigraph_of_nextEdgeName (h : (s.nextEdgeName stem v w).1.isSome) :
    s.graph.multigraph = true := by
  rcases s.nextEdgeName_cases stem v w with ⟨-, heq⟩ | ⟨hmulti, -, -⟩
  · rw [heq] at h
    cases h
  · exact hmulti

section Connect

variable {attrs : Attrs} {points : Option (List Point)}

/-- Linking two nodes whose edge is there merges into the label of that edge. -/
theorem connect_of_hasEdge
    (h : s.graph.hasEdge v w (s.nextEdgeName stem v w).1 = true) :
    s.connect stem v w attrs points = { s with
      graph := s.graph.modifyEdge v w (s.nextEdgeName stem v w).1
        fun label => label.merge attrs points
      counter := (s.nextEdgeName stem v w).2.counter } := by
  have hgraph := congrArg State.graph (s.nextEdgeName_snd stem v w)
  have hdefaults := congrArg State.defaults (s.nextEdgeName_snd stem v w)
  have hdiagnostics := congrArg State.diagnostics (s.nextEdgeName_snd stem v w)
  simp only [connect, hgraph, hdefaults, hdiagnostics, h, if_true]

/-- Linking two nodes adds an edge that is not there. -/
theorem connect_of_not_hasEdge
    (h : s.graph.hasEdge v w (s.nextEdgeName stem v w).1 = false) :
    s.connect stem v w attrs points = { s with
      graph := (((s.graph.setNode v none).setNode w none).addEdge v w (s.nextEdgeName stem v w).1
        (EdgeLabel.ofAttrs s.defaults.current.edge)).modifyEdge v w (s.nextEdgeName stem v w).1
          fun label => label.merge attrs points
      counter := (s.nextEdgeName stem v w).2.counter } := by
  have hgraph := congrArg State.graph (s.nextEdgeName_snd stem v w)
  have hdefaults := congrArg State.defaults (s.nextEdgeName_snd stem v w)
  have hdiagnostics := congrArg State.diagnostics (s.nextEdgeName_snd stem v w)
  have hset := Graph.setEdge_eq h multigraph_of_nextEdgeName
    (EdgeLabel.ofAttrs s.defaults.current.edge)
  simp only [connect, hgraph, hdefaults, hdiagnostics, h, hset, Bool.false_eq_true, if_false]

/-- What linking two nodes adds when their edge is not there. -/
theorem edgeAdded_connect (h : s.graph.Sound) (hv : IsPlain v) (hw : IsPlain w)
    (hnew : s.graph.hasEdge v w (s.nextEdgeName stem v w).1 = false) (attrs : Attrs)
    (points : Option (List Point)) :
    Graph.EdgeAdded (EdgeRef.ofEnds s.graph.directed v w (s.nextEdgeName stem v w).1) s.graph
      (s.connect stem v w attrs points).graph := by
  rw [connect_of_not_hasEdge hnew]
  dsimp only
  exact h.setEdge hv hw (s.nextEdgeName_ne stem v w) hnew _ _

/-- Either the label of an edge is changed, or one edge is added between nodes that are there. -/
theorem effect_connect (h : s.graph.Sound) (hv : IsPlain v) (hw : IsPlain w) :
    Effect stem s (s.connect stem v w attrs points) := by
  by_cases hedge : s.graph.hasEdge v w (s.nextEdgeName stem v w).1 = true
  · rw [connect_of_hasEdge hedge]
    refine ⟨.grows ?_ (s.counter_le_nextEdgeName stem v w), fun _ hcause => hcause⟩
    dsimp only
    exact .of_same h (Graph.sameNesting_modifyEdge _ _ _ _ _) (Graph.sameLinks_modifyEdge _ _ _ _ _)
  · have hnew := Bool.eq_false_iff.2 hedge
    have hadded := edgeAdded_connect h hv hw hnew attrs points
    rw [connect_of_not_hasEdge hnew] at hadded ⊢
    exact ⟨.links v w hv hw hadded rfl, fun _ hcause => hcause⟩

end Connect

end State

/-! ### Actions -/

/-- The open subgraphs have plain ids, and the graph is sound and of the kind of the document. -/
structure Progress.Sound (doc : Document) (p : Progress) : Prop where
  graph : p.graph.Sound
  scopes : ∀ id ∈ p.scopes, IsPlain id
  directed : p.graph.directed = doc.kind.isDirected
  multigraph : p.graph.multigraph = !doc.strict
  accepted : ∀ cause, .rejected cause ∉ p.state.diagnostics

/-- The innermost scope is one of the open ones. -/
theorem Progress.Sound.isPlain_scope (h : p.Sound doc) : ∀ id ∈ p.scope, IsPlain id :=
  fun id hid => h.scopes id (List.mem_of_mem_head? hid)

namespace State

/-- The graph and the reports are the same, and the numbers of names only go up. -/
theorem effect_of_graph_eq (h : s.graph.Sound) (hgraph : s'.graph = s.graph)
    (hcounter : s.counter ≤ s'.counter) (hdiagnostics : s'.diagnostics = s.diagnostics) :
    Effect stem s s' := by
  refine ⟨.grows ?_ hcounter, fun _ hcause => hdiagnostics ▸ hcause⟩
  rw [hgraph]
  exact .refl h

/-- Taking an id for a subgraph may use numbers up, and nothing else. -/
theorem effect_subgraphId (h : s.graph.Sound) (idStem : String) (name : Option String)
    (defaults : Defaults) :
    Effect stem s { (s.subgraphId idStem name).2 with defaults := defaults } := by
  cases name with
  | some name => exact effect_of_graph_eq h rfl (Nat.le_refl _) rfl
  | none => exact effect_of_graph_eq h rfl (Nat.le_of_lt (lt_freeNumber _ _ _)) rfl

/-- Attributes of the graph go to a label, and all others are defaults. -/
theorem effect_attrStatement (h : s.graph.Sound) (scope : Option String) (target : AttrTarget)
    (attrs : Attrs) : Effect stem s (attrStatement settings s scope target attrs) := by
  cases target with
  | graph => exact effect_mergeIntoScope h scope attrs _
  | node => exact effect_of_graph_eq h rfl (Nat.le_refl _) rfl
  | edge => exact effect_of_graph_eq h rfl (Nat.le_refl _) rfl

end State

/-- The effect of an action on a sound state. -/
theorem effect_perform (settings : Settings) (h : p.Sound doc)
    (hids : ∀ id ∈ action.ids, IsPlain id) :
    Effect settings.edgeNameStem p.state (perform settings p action).state := by
  obtain ⟨s, scopes⟩ := p
  have hrefl : Effect settings.edgeNameStem s s :=
    State.effect_of_graph_eq h.graph rfl (Nat.le_refl _) rfl
  -- an action of an empty stack of scopes does nothing, all others are steps of the state
  cases action with
  | enter name => exact State.effect_subgraphId h.graph _ name _
  | addScope =>
    cases scopes with
    | nil => exact hrefl
    | cons id outer =>
      refine State.effect_ensureNode h.graph (h.scopes id List.mem_cons_self) fun c hc => ?_
      exact h.scopes c (List.mem_cons_of_mem _ (List.mem_of_mem_head? hc))
  | addNode id => exact State.effect_ensureNode h.graph (hids id List.mem_cons_self) h.isPlain_scope
  | mergeNode id attrs => exact State.effect_modifyNode h.graph id _
  | attr target attrs => exact State.effect_attrStatement h.graph _ target attrs
  | inlineAttr attrs => exact State.effect_mergeIntoScope h.graph _ attrs none
  | link v w attrs =>
    exact State.effect_connect h.graph (hids v List.mem_cons_self)
      (hids w (List.mem_cons_of_mem _ List.mem_cons_self))
  | skipStatement => exact State.effect_report h.graph fun _ => Diagnostic.noConfusion
  | skipElement => exact State.effect_report h.graph fun _ => Diagnostic.noConfusion
  | elide =>
    cases scopes with
    | nil => exact hrefl
    | cons id outer =>
      by_cases hempty : (s.graph.children id).isEmpty = true
      · simp only [perform, if_pos hempty]
        exact State.effect_removeNode h.graph (List.isEmpty_iff.1 hempty)
      · simp only [perform, if_neg hempty]
        exact hrefl
  | leave => exact State.effect_of_graph_eq h.graph rfl (Nat.le_refl _) rfl

/-! ### All states of a build -/

/-- An id with a plain stem is plain, since digits are; a given one is plain by itself. -/
theorem isPlain_subgraphId (hstem : IsPlain stem) {name : Option String}
    (hname : ∀ id ∈ name, IsPlain id) (s : State) : IsPlain (s.subgraphId stem name).1 := by
  cases name with
  | some name => exact hname name rfl
  | none => exact isPlain_numbered hstem _

/-- Every scope that is opened has an id of the document or a generated one. -/
theorem isPlain_scopes_perform (hadmissible : Admissible settings doc) (h : p.Sound doc)
    (hids : ∀ id ∈ action.ids, IsPlain id) :
    ∀ id ∈ (perform settings p action).scopes, IsPlain id := by
  obtain ⟨s, scopes⟩ := p
  have hscopes := h.scopes
  cases action with
  | enter name =>
    -- the only action that opens a scope: its id is written, or made from the stem
    intro id hid
    rcases List.mem_cons.1 hid with rfl | hid
    · exact isPlain_subgraphId hadmissible.stem (fun id hid => hids id (Option.mem_toList.2 hid)) s
    · exact hscopes id hid
  | leave => exact fun id hid => hscopes id (List.mem_of_mem_tail hid)
  | addScope => cases scopes <;> exact hscopes
  | elide => cases scopes <;> exact hscopes
  | addNode | mergeNode | attr | inlineAttr | link | skipStatement | skipElement => exact hscopes

/-- One action on plain ids keeps a build sound. -/
theorem Progress.Sound.perform (hadmissible : Admissible settings doc) (h : p.Sound doc)
    (hids : ∀ id ∈ action.ids, IsPlain id) : (perform settings p action).Sound doc := by
  have heffect := effect_perform settings h hids
  exact ⟨heffect.change.sound, isPlain_scopes_perform hadmissible h hids,
    heffect.change.directed.trans h.directed, heffect.change.multigraph.trans h.multigraph,
    fun cause hcause => h.accepted cause (heffect.rejected cause hcause)⟩

/-- The build of a document starts with a sound graph of the kind that the document says. -/
theorem Progress.sound_initial (doc : Document) : (Progress.initial doc).Sound doc where
  graph := (Graph.sound_empty _ _).congr ⟨rfl, rfl, fun _ => rfl, fun _ => rfl, rfl⟩
    ⟨rfl, rfl, rfl, rfl, fun _ _ _ => Iff.rfl, rfl⟩
  scopes _ hid := absurd hid List.not_mem_nil
  directed := rfl
  multigraph := rfl
  accepted _ := List.not_mem_nil

/-- Every state of the build of an admissible document is sound. -/
theorem Reaches.sound (hadmissible : Admissible settings doc) (h : Reaches settings doc p rest) :
    p.Sound doc :=
  h.invariant (P := Progress.Sound doc) (Progress.sound_initial doc) fun _ _ haction hp =>
    hp.perform hadmissible fun _ hid => hadmissible.isPlain haction hid

namespace Reaches

variable (hadmissible : Admissible settings doc)

include hadmissible

/-- The next action works on plain ids. -/
theorem isPlain_ids (h : Reaches settings doc p (action :: rest)) : ∀ id ∈ action.ids, IsPlain id :=
  fun _ hid => hadmissible.isPlain (h.isSuffix.subset List.mem_cons_self) hid

/-- The effect of the next action. -/
theorem effect (h : Reaches settings doc p (action :: rest)) :
    Effect settings.edgeNameStem p.state (perform settings p action).state :=
  effect_perform settings (h.sound hadmissible) (h.isPlain_ids hadmissible)

/-- What holds at the start and is kept by every change to a sound graph of the kind of the document
holds in every state of the build. -/
theorem invariant_of_change (h : Reaches settings doc p rest) {P : State → Prop}
    (hstart : P (start doc)) (hchange : ∀ s s', s.graph.Sound → s.graph.multigraph = !doc.strict →
      Change settings.edgeNameStem s s' → P s → P s') : P p.state := by
  induction h with
  | initial => exact hstart
  | next h ih =>
    have hsound := h.sound hadmissible
    exact hchange _ _ hsound.graph hsound.multigraph (h.effect hadmissible).change ih

end Reaches

end ClusterGraph.Build
