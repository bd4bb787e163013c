import ClusterGraph.Proofs.Build.NamedScopes
import ClusterGraph.Proofs.Build.Sketch

/-!
# Strict builds

A strict build keeps one edge for two nodes where another one keeps an edge for every link. The edge
that it keeps is the **first** one, which is the one without a name, and apart from the labels of
edges nothing else depends on it: the builds of a document, strict or not, show the same first edges
between the same nodes (`Build.build_strict`). Both run in lockstep with what is left of their
sketches when further edges are taken out (`Sketch.firsts`). A removal takes all edges of its node
in both, and a first edge is never missing where a further one stands.

Anonymous subgraphs are left out, since their ids share a counter with the names of further edges.
-/

namespace ClusterGraph

/-! ### First edges -/

/-- An edge as if nothing had been written on it. -/
def EdgeEntry.blank (edge : EdgeEntry) : EdgeEntry :=
  { edge with label := EdgeLabel.ofAttrs Attrs.empty }

theorem EdgeEntry.blank_relabel (ref : EdgeRef) (f : EdgeLabel → EdgeLabel) (edge : EdgeEntry) :
    (edge.relabel ref f).blank = edge.blank := by
  rw [relabel]
  split <;> rfl

namespace Outline

/-- An outline with its first edges only, and nothing written on them. -/
def firsts (o : Outline) : Outline :=
  { o with
    multigraph := false
    edges := (o.edges.filter fun edge => edge.ref.name = none).map EdgeEntry.blank }

variable (o : Outline) {v w : String} {label label' : EdgeLabel}

theorem refs_firsts : o.firsts.refs = o.refs.filter fun ref => ref.name = none := by
  simp only [refs, firsts, List.map_map, List.filter_map]
  rfl

theorem mem_refs_firsts : EdgeRef.ofEnds o.firsts.directed v w none ∈ o.firsts.refs ↔
    EdgeRef.ofEnds o.directed v w none ∈ o.refs := by
  rw [refs_firsts, List.mem_filter, decide_eq_true_iff]
  exact and_iff_left rfl

theorem firsts_firsts : o.firsts.firsts = o.firsts := by
  refine Outline.ext rfl rfl rfl rfl ?_
  simp only [firsts, List.filter_map, List.map_map]
  congr 1
  exact List.filter_eq_self.2 fun edge hedge => (List.mem_filter.1 hedge).2

theorem firsts_relabelEdge (ref : EdgeRef) (f : EdgeLabel → EdgeLabel) :
    (o.relabelEdge ref f).firsts = o.firsts := by
  have hnamed : (fun edge : EdgeEntry => decide (edge.ref.name = none)) ∘ EdgeEntry.relabel ref f =
      fun edge => decide (edge.ref.name = none) :=
    funext fun edge => by rw [Function.comp_apply, EdgeEntry.ref_relabel]
  have hblank : EdgeEntry.blank ∘ EdgeEntry.relabel ref f = EdgeEntry.blank :=
    funext (EdgeEntry.blank_relabel ref f)
  refine Outline.ext rfl rfl rfl rfl ?_
  simp only [firsts, relabelEdge, List.filter_map, List.map_map, hnamed, hblank]

/-- A further edge between nodes that are there does not show among the first edges. -/
theorem firsts_addEdge_some (name : String) (hv : v ∈ o.nodes.ids) (hw : w ∈ o.nodes.ids) :
    (o.addEdge v w (some name) label).firsts = o.firsts := by
  have hnodes : (o.nodes.supply v).supply w = o.nodes := by
    rw [Rows.supply_of_mem hv, Rows.supply_of_mem hw]
  refine Outline.ext rfl rfl rfl hnodes ?_
  simp [firsts, addEdge, EdgeRef.ofEnds]

theorem firsts_addEdge_none :
    (o.addEdge v w none label).firsts = (o.firsts.addEdge v w none label').firsts := by
  refine Outline.ext rfl rfl rfl rfl ?_
  have hold : o.firsts.firsts.edges = o.firsts.edges := congrArg Outline.edges o.firsts_firsts
  simp only [firsts] at hold
  simp only [firsts, addEdge, List.filter_append, List.map_append, hold]
  rfl

theorem firsts_elide (id : String) : (o.elide id).firsts = o.firsts.elide id := by
  have hremove : (o.removeNode id).firsts = o.firsts.removeNode id := by
    refine Outline.ext rfl rfl rfl rfl ?_
    simp only [firsts, removeNode, List.filter_map]
    rw [List.filter_comm]
    rfl
  rw [elide, elide, apply_ite firsts, hremove]
  rfl

end Outline

namespace Build

namespace Sketch

/-- A sketch with first edges only, whose counter has not been used. -/
def firsts (k : Sketch) : Sketch := { k with outline := k.outline.firsts, counter := 0 }

variable {k : Sketch} {settings : Settings} {action : Action} {stem v w : String}

/-- In a graph with one edge for two nodes no edge gets a name. -/
theorem nextNumber_firsts (k : Sketch) (v w : String) : k.firsts.nextNumber v w = none :=
  if_neg fun h => Bool.false_ne_true h.1

/-- The next edge between two nodes is new if it has a name, and only nodes that are there have an
edge already. -/
structure CanLink (stem : String) (k : Sketch) (v w : String) : Prop where
  ends : EdgeRef.ofEnds k.outline.directed v w none ∈ k.outline.refs →
    v ∈ k.outline.nodes.ids ∧ w ∈ k.outline.nodes.ids
  new : ∀ n, k.nextNumber v w = some n →
    EdgeRef.ofEnds k.outline.directed v w (some (numbered stem n)) ∉ k.outline.refs

/-- A link shows among the first edges only when it makes one. -/
theorem firsts_connect (h : CanLink stem k v w) (attrs : Attrs) (points : Option (List Point)) :
    (k.connect stem v w attrs points).firsts = (k.firsts.connect stem v w attrs points).firsts := by
  set label := EdgeLabel.ofAttrs k.defaults.current.edge
  set f := fun label : EdgeLabel => label.merge attrs points
  have houtline : (k.outline.link v w ((k.nextNumber v w).map (numbered stem)) label f).firsts =
      (k.outline.firsts.link v w none label f).firsts := by
    by_cases hmem : EdgeRef.ofEnds k.outline.directed v w none ∈ k.outline.refs
    · -- a strict build writes on the first edge, another one adds a further edge: neither shows
      obtain ⟨hv, hw⟩ := h.ends hmem
      have hmem' := k.outline.mem_refs_firsts.2 hmem
      rw [k.outline.firsts.link_of_mem label f hmem', Outline.firsts_relabelEdge,
        Outline.firsts_firsts]
      cases hnumber : k.nextNumber v w with
      | none =>
        rw [Option.map_none, k.outline.link_of_mem label f hmem, Outline.firsts_relabelEdge]
      | some n =>
        rw [Option.map_some, k.outline.link_of_not_mem label f (h.new n hnumber),
          Outline.firsts_addEdge_some _ _ hv hw]
    · have hmem' := mt k.outline.mem_refs_firsts.1 hmem
      have hnumber : k.nextNumber v w = none := if_neg fun hnext => hmem hnext.2
      rw [hnumber, Option.map_none, k.outline.link_of_not_mem label f hmem,
        k.outline.firsts.link_of_not_mem label f hmem']
      exact k.outline.firsts_addEdge_none
  rw [connect, connect, nextNumber_firsts, Option.map_none]
  exact Sketch.ext houtline rfl rfl rfl rfl

/-- What an action does to first edges, and to all else, can be told from the first edges. -/
theorem firsts_perform (hnamed : action ≠ .enter none)
    (hlink : ∀ v w attrs, action = .link v w attrs → k.CanLink settings.edgeNameStem v w) :
    (k.perform settings action).firsts = (k.firsts.perform settings action).firsts := by
  have hfirsts : k.outline.firsts.firsts = k.outline.firsts := k.outline.firsts_firsts
  by_cases hquiet : action.isQuiet = true
  · -- the action is the same on all sketches that differ in edges and counter only
    have hframe : k.firsts.perform settings action =
        (k.perform settings action).withEdges false k.outline.firsts.edges 0 :=
      perform_withEdges hquiet settings
    have hedges : (k.perform settings action).outline.edges = k.outline.edges :=
      edges_perform hquiet settings
    rw [hframe]
    refine Sketch.ext (Outline.ext rfl rfl rfl rfl ?_) rfl rfl rfl rfl
    have hedges' := congrArg Outline.edges hfirsts
    simp only [firsts, withEdges, Outline.firsts, hedges] at hedges' ⊢
    exact hedges'.symm
  -- what is left reads edges or the counter
  cases action with
  | enter id =>
    cases id with
    | none => exact absurd rfl hnamed
    | some id => exact absurd rfl hquiet
  | link v w attrs => exact firsts_connect (hlink v w attrs rfl) attrs _
  | elide =>
    cases hscopes : k.scopes with
    | nil => simp only [perform, hscopes, firsts, hfirsts]
    | cons id outer =>
      simp only [perform, hscopes, firsts, ← k.outline.firsts_elide id, Outline.firsts_firsts]
  | addScope | addNode | mergeNode | inlineAttr | skipStatement | skipElement | leave | attr =>
    exact absurd rfl hquiet

end Sketch

/-! ### Builds in lockstep -/

variable {settings : Settings} {doc doc' : Document} {p p' : Progress} {action : Action}
  {rest : List Action}

/-- In every build the next link finds the edges that it expects. -/
theorem Reaches.canLink (hadmissible : Admissible settings doc) {v w : String} {attrs : Attrs}
    (h : Reaches settings doc p (.link v w attrs :: rest)) :
    p.sketch.CanLink settings.edgeNameStem v w := by
  refine ⟨fun hmem => ?_, fun n hnumber => ?_⟩
  · exact ⟨h.mem_ids_of_hasEnd hadmissible hmem (EdgeRef.hasEnd_ofEnds.2 (.inl rfl)),
      h.mem_ids_of_hasEnd hadmissible hmem (EdgeRef.hasEnd_ofEnds.2 (.inr rfl))⟩
  · have hmultigraph : p.sketch.outline.multigraph = true := by
      by_contra hstrict
      rw [Sketch.nextNumber, if_neg fun hnext => hstrict hnext.1] at hnumber
      cases hnumber
    have hstrict : doc.strict = false := by
      have hkind : p.sketch.outline.multigraph = !doc.strict := (h.sound hadmissible).multigraph
      rw [hmultigraph] at hkind
      simpa using hkind.symm
    have hnew := h.not_mem_refs_link hadmissible hstrict
    rwa [hnumber, Option.map_some] at hnew

/-- Whatever happens next shows in the first edges of a build as in a strict one. -/
theorem Reaches.firsts_next (hadmissible : Admissible settings doc)
    (h : Reaches settings doc p (action :: rest)) (hnamed : action ≠ .enter none) :
    (perform settings p action).sketch.firsts =
      (p.sketch.firsts.perform settings action).firsts := by
  rw [h.sketch_next hadmissible]
  refine Sketch.firsts_perform hnamed fun v w attrs haction => ?_
  subst haction
  exact h.canLink hadmissible

/-- Builds of the same statements that start with the same first edges end with the same ones, and
agree in all but edges. -/
theorem firsts_build (hadmissible : Admissible settings doc)
    (hadmissible' : Admissible settings doc') (hnamed : Named doc) (hstmts : doc'.stmts = doc.stmts)
    (hinitial : (Sketch.initial doc).firsts = (Sketch.initial doc').firsts) :
    (doc.build settings).diagnostics = (doc'.build settings).diagnostics ∧
    (doc.build settings).graph.outline.firsts = (doc'.build settings).graph.outline.firsts := by
  have hfinal := Reaches.lockstep (R := fun p p' => p.sketch.firsts = p'.sketch.firsts) hstmts
    hinitial fun p p' action rest h h' hsame => by
      have haction := hnamed.ne_enter_none h
      rw [h.firsts_next hadmissible haction, h'.firsts_next hadmissible' haction, hsame]
  exact ⟨congrArg Sketch.diagnostics hfinal, congrArg Sketch.outline hfinal⟩

end Build

/-- The ends of an edge in a snapshot. -/
def EdgeSnapshot.ends (edge : EdgeSnapshot) : String × String := (edge.source, edge.target)

theorem Outline.ends_snapshot_firsts (o : Outline) :
    o.firsts.snapshot.edges.map EdgeSnapshot.ends =
      (o.snapshot.edges.filter fun edge => edge.name = none).map EdgeSnapshot.ends := by
  simp only [snapshot, firsts, List.map_map, List.filter_map]
  rfl

namespace Build

/-- What one build shows is what another one shows with its first edges only. -/
structure ShowsFirsts (strict loose : Output) : Prop where
  diagnostics : strict.diagnostics = loose.diagnostics
  label : strict.graph.snapshot.label = loose.graph.snapshot.label
  /-- Ids, parents, members, attributes and placements of the nodes, in order. -/
  nodes : strict.graph.snapshot.nodes = loose.graph.snapshot.nodes
  /-- The ends of the edges without a name, in order. -/
  ends : strict.graph.snapshot.edges.map EdgeSnapshot.ends =
    (loose.graph.snapshot.edges.filter fun edge => edge.name = none).map EdgeSnapshot.ends

theorem showsFirsts_of_admissible (hadmissible : Admissible settings doc)
    (hadmissible' : Admissible settings doc') (hstrict : doc.strict = true)
    (hfirsts : (doc.build settings).diagnostics = (doc'.build settings).diagnostics ∧
      (doc.build settings).graph.outline.firsts = (doc'.build settings).graph.outline.firsts) :
    ShowsFirsts (doc.build settings) (doc'.build settings) := by
  obtain ⟨hdiagnostics, hfirsts⟩ := hfirsts
  have hreach : Reaches settings doc _ [] := Reaches.build settings doc
  -- no edge of a strict build has a name, so all of them are first edges
  have hunnamed : ∀ edge ∈ (doc.build settings).graph.outline.snapshot.edges,
      decide (edge.name = none) = true := by
    intro edge hedge
    obtain ⟨entry, hentry, rfl⟩ := List.mem_map.1 hedge
    exact decide_eq_true (hreach.unnamed hadmissible hstrict _ (List.mem_map_of_mem hentry))
  have hends : (doc.build settings).graph.outline.snapshot.edges.map EdgeSnapshot.ends =
      (doc.build settings).graph.outline.firsts.snapshot.edges.map EdgeSnapshot.ends := by
    rw [Outline.ends_snapshot_firsts, List.filter_eq_self.2 hunnamed]
  constructor
  · exact hdiagnostics
  all_goals rw [snapshot_build hadmissible, snapshot_build hadmissible']
  · have hlabel := congrArg Outline.label hfirsts
    exact hlabel
  · have hnodes := congrArg (fun o : Outline => o.snapshot.nodes) hfirsts
    exact hnodes
  · rw [hends, hfirsts, Outline.ends_snapshot_firsts]

/-- The strict build of a document whose subgraphs all have ids shows what the other one shows, with
the first edges only: the same reports, the same label and the same nodes, and between the same
nodes, in the same order, the edges that have no name there. -/
theorem build_strict (settings : Settings) (h : Named doc) :
    ShowsFirsts (Document.build settings { doc with strict := true })
      (Document.build settings { doc with strict := false }) := by
  have hstrict : Named { doc with strict := true } := ⟨h.written, h.named⟩
  have hloose : Named { doc with strict := false } := ⟨h.written, h.named⟩
  have hplain := hstrict.admissible settings
  have hplain' := hloose.admissible settings
  rw [← hstrict.build_stemless, ← hloose.build_stemless]
  exact showsFirsts_of_admissible hplain hplain' rfl (firsts_build hplain hplain' hstrict rfl rfl)

/-- Two nodes are linked in both directions and again in a subgraph; one of them, which is the node
of a subgraph too, goes away with its edges in between, and its scope is still in use. -/
def vanishingEnd : Document where
  kind := .digraph
  strict := false
  id := some "G"
  stmts :=
    let linked : Statement := .edge [.node "a" Attrs.empty, .node "s" Attrs.empty] Attrs.empty
    [linked, linked, .edge [.node "s" Attrs.empty, .node "a" Attrs.empty] Attrs.empty,
      .subgraph (some "s") [.subgraph (some "s") [], .inlineAttr Attrs.empty, linked, linked,
        .node "b" Attrs.empty]]

/-- Of the two edges that are left, the strict build has the unnamed one. -/
theorem build_strict_vanishingEnd :
    Named vanishingEnd ∧
    (Document.build Settings.default { vanishingEnd with strict := true }).graph.edgeRefs =
      [⟨"a", "s", none⟩] ∧
    (Document.build Settings.default { vanishingEnd with strict := false }).graph.edgeRefs =
      [⟨"a", "s", none⟩, ⟨"a", "s", some "edge2"⟩] ∧
    (vanishingEnd.build Settings.default).diagnostics =
      [.missingScope "s", .selfNesting "s"] ∧
    ShowsFirsts (Document.build Settings.default { vanishingEnd with strict := true })
      (Document.build Settings.default { vanishingEnd with strict := false }) := by
  have hnamed : Named vanishingEnd := ⟨by decide, by decide⟩
  exact ⟨hnamed, by decide +kernel, by decide +kernel, by decide +kernel,
    build_strict Settings.default hnamed⟩

end Build

end ClusterGraph
