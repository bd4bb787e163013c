import ClusterGraph.Proofs.Build.Steps
import ClusterGraph.Snapshot

/-!
# Consistent graphs and snapshots

A graph is **consistent** when what it shows of itself fits together: no node and no edge is listed
twice, the ends of every edge and every parent are nodes, the counts are right, and the members of
a node are exactly the nodes whose parent it is (`Graph.Consistent`). Every graph that the
build of an admissible document goes through is consistent, and its snapshot leaves nothing out
and is consistent in the same sense (`Build.build_presentable`).
-/

namespace ClusterGraph

/-! ### Consistent graphs -/

namespace Graph

variable {g : Graph} {id p c : String}

/-- Nodes, edges and nesting fit together, as far as they can be read off a graph. -/
structure Consistent (g : Graph) : Prop where
  nodeIds_nodup : g.nodeIds.Nodup
  edgeRefs_nodup : g.edgeRefs.Nodup
  /-- The ends of an undirected edge are listed in order. -/
  ordered : g.directed = false → ∀ ref ∈ g.edgeRefs, ¬ ref.target < ref.source
  ends : ∀ ref ∈ g.edgeRefs, ref.source ∈ g.nodeIds ∧ ref.target ∈ g.nodeIds
  nodeCount_eq : g.nodeCount = g.nodeIds.length
  edgeCount_eq : g.edgeCount = g.edgeRefs.length
  children_nodup : ∀ p, (g.children p).Nodup
  mem_children_iff : ∀ p c, p ≠ rootId → (c ∈ g.children p ↔ g.parent? c = some p)
  /-- The graph itself lists the nodes without a parent. -/
  mem_children_rootId_iff : ∀ c, c ∈ g.children rootId ↔ c ∈ g.nodeIds ∧ g.parent? c = none
  parent_mem : ∀ p c, g.parent? c = some p → p ∈ g.nodeIds

theorem not_lt_of_isStored {ref : EdgeRef} (h : ref.IsStored false) :
    ¬ ref.target < ref.source := by
  intro hlt
  have hordered := h.ordered
  simp only [orderEnds, Bool.not_false, Bool.true_and, hlt, decide_true, if_true,
    Prod.mk.injEq] at hordered
  exact String.lt_irrefl ref.source (by rwa [hordered.1] at hlt)

/-- A sound graph is consistent. -/
theorem Sound.consistent (h : g.Sound) : g.Consistent where
  nodeIds_nodup := g.nodeIds_nodup
  edgeRefs_nodup := h.linked.edgeRefs_nodup
  ordered hdirected ref href := not_lt_of_isStored (hdirected ▸ h.linked.stored ref href)
  ends ref href := ⟨h.linked.mem_nodeIds href (.inl rfl), h.linked.mem_nodeIds href (.inr rfl)⟩
  nodeCount_eq := h.nested.nodeCount_eq
  edgeCount_eq := h.linked.edgeCount_eq
  children_nodup p := by
    rw [children_eq_listed h.nested.compound]
    exact h.nested.listed_nodup p
  mem_children_iff p c hp := by
    rw [h.nested.mem_children_iff, parent?_eq_some_iff h.nested.compound, and_iff_left hp]
  mem_children_rootId_iff c := by
    rw [h.nested.mem_children_iff]
    refine ⟨fun hc => ?_, fun hc => (h.nested.parent?_eq_none_iff hc.1).1 hc.2⟩
    have hmem := mem_nodeIds_of_container? hc
    exact ⟨hmem, (h.nested.parent?_eq_none_iff hmem).2 hc⟩
  parent_mem p c hc := by
    obtain ⟨hc, hp⟩ := (parent?_eq_some_iff h.nested.compound).1 hc
    exact (h.nested.eq_rootId_or_mem hc).resolve_left hp

end Graph

/-! ### Consistent snapshots -/

/-- The ends and the name of an edge in a snapshot. -/
def EdgeSnapshot.ref (edge : EdgeSnapshot) : EdgeRef := ⟨edge.source, edge.target, edge.name⟩

namespace Snapshot

/-- The ids of the nodes, in order. -/
def ids (s : Snapshot) : List String := s.nodes.map NodeSnapshot.id

/-- The ends and names of the edges, in order. -/
def refs (s : Snapshot) : List EdgeRef := s.edges.map EdgeSnapshot.ref

/-- Nodes, edges and nesting of a snapshot fit together. -/
structure Consistent (s : Snapshot) : Prop where
  ids_nodup : s.ids.Nodup
  refs_nodup : s.refs.Nodup
  ordered : s.directed = false → ∀ edge ∈ s.edges, ¬ edge.target < edge.source
  ends : ∀ edge ∈ s.edges, edge.source ∈ s.ids ∧ edge.target ∈ s.ids
  children_nodup : ∀ node ∈ s.nodes, node.children.Nodup
  mem_children_iff : ∀ node ∈ s.nodes, ∀ c,
    c ∈ node.children ↔ ∃ child ∈ s.nodes, child.id = c ∧ child.parent = some node.id
  parent_mem : ∀ node ∈ s.nodes, ∀ p, node.parent = some p → p ∈ s.ids

/-- A snapshot shows all nodes and all edges of a graph, and as many as the graph counts. -/
structure Complete (s : Snapshot) (g : Graph) : Prop where
  ids_eq : s.ids = g.nodeIds
  refs_eq : s.refs = g.edgeRefs
  length_nodes : s.nodes.length = g.nodeCount
  length_edges : s.edges.length = g.edgeCount

end Snapshot

namespace Graph

variable {g : Graph}

/-- A list comes back from a partial function that is defined on all of it, if the results still
show where they come from. -/
private theorem map_filterMap_eq_self {α β : Type} {f : α → Option β} {k : β → α} {l : List α}
    (h : ∀ a ∈ l, ∃ b, f a = some b ∧ k b = a) : (l.filterMap f).map k = l := by
  induction l with
  | nil => rfl
  | cons a l ih =>
    obtain ⟨b, hb, hk⟩ := h a List.mem_cons_self
    rw [List.filterMap_cons_some hb, List.map_cons, hk,
      ih fun a' ha' => h a' (List.mem_cons_of_mem _ ha')]

theorem ids_snapshot (g : Graph) : g.snapshot.ids = g.nodeIds := by
  refine map_filterMap_eq_self fun id hid => ?_
  obtain ⟨entry, hentry⟩ := Option.isSome_iff_exists.1 (Table.get?_isSome_iff.2 hid)
  exact ⟨_, by rw [node?, hentry]; rfl, rfl⟩

theorem Linked.refs_snapshot (h : g.Linked) : g.snapshot.refs = g.edgeRefs := by
  refine map_filterMap_eq_self fun ref href => ?_
  have hkey := (h.mem_keys_iff (h.stored ref href)).2 href
  obtain ⟨entry, hentry⟩ := Option.isSome_iff_exists.1 (Table.get?_isSome_iff.2 hkey)
  change g.edges.get? (edgeKey g.directed ref.source ref.target ref.name) = some entry at hentry
  exact ⟨_, by rw [edge?, hentry]; rfl, rfl⟩

theorem Sound.complete (h : g.Sound) : g.snapshot.Complete g where
  ids_eq := g.ids_snapshot
  refs_eq := h.linked.refs_snapshot
  length_nodes := by
    rw [h.nested.nodeCount_eq, ← g.ids_snapshot, Snapshot.ids, List.length_map]
  length_edges := by
    rw [h.linked.edgeCount_eq, ← h.linked.refs_snapshot, Snapshot.refs, List.length_map]

/-- A node in a snapshot shows its place in the nesting of the graph. -/
theorem of_mem_snapshot_nodes {node : NodeSnapshot} (h : node ∈ g.snapshot.nodes) :
    node.parent = g.parent? node.id ∧ node.children = g.children node.id := by
  obtain ⟨id, -, hid⟩ := List.mem_filterMap.1 h
  obtain ⟨label, -, rfl⟩ := Option.map_eq_some_iff.1 hid
  exact ⟨rfl, rfl⟩

theorem Sound.consistent_snapshot (h : g.Sound) : g.snapshot.Consistent := by
  have hconsistent := h.consistent
  have hids := g.ids_snapshot
  have hrefs := h.linked.refs_snapshot
  -- what a snapshot shows is an edge or a node of the graph
  have href : ∀ edge ∈ g.snapshot.edges, edge.ref ∈ g.edgeRefs := fun edge hedge =>
    hrefs ▸ List.mem_map_of_mem hedge
  have hnode : ∀ node ∈ g.snapshot.nodes, node.id ∈ g.nodeIds := fun node hmem =>
    hids ▸ List.mem_map_of_mem hmem
  refine ⟨?_, ?_, fun hdirected edge hedge => ?_, fun edge hedge => ?_, fun node hmem => ?_,
    fun node hmem c => ?_, fun node hmem p hp => ?_⟩
  · rw [hids]
    exact hconsistent.nodeIds_nodup
  · rw [hrefs]
    exact hconsistent.edgeRefs_nodup
  · exact hconsistent.ordered hdirected _ (href edge hedge)
  · rw [hids]
    exact hconsistent.ends _ (href edge hedge)
  · rw [(of_mem_snapshot_nodes hmem).2]
    exact hconsistent.children_nodup _
  · rw [(of_mem_snapshot_nodes hmem).2,
      hconsistent.mem_children_iff _ _ (h.nested.ne_rootId (hnode node hmem))]
    constructor
    · intro hparent
      have hc := mem_nodeIds_of_container?
        ((parent?_eq_some_iff h.nested.compound).1 hparent).1
      rw [← hids, Snapshot.ids, List.mem_map] at hc
      obtain ⟨child, hchild, rfl⟩ := hc
      exact ⟨child, hchild, rfl, (of_mem_snapshot_nodes hchild).1.trans hparent⟩
    · rintro ⟨child, hchild, rfl, hparent⟩
      exact (of_mem_snapshot_nodes hchild).1.symm.trans hparent
  · rw [hids]
    exact hconsistent.parent_mem p _ ((of_mem_snapshot_nodes hmem).1.symm.trans hp)

end Graph

/-- A graph is **presentable** when it is consistent and its snapshot shows all of it and is
consistent in turn. -/
structure Graph.Presentable (g : Graph) : Prop where
  consistent : g.Consistent
  complete : g.snapshot.Complete g
  consistent_snapshot : g.snapshot.Consistent

theorem Graph.Sound.presentable {g : Graph} (h : g.Sound) : g.Presentable :=
  ⟨h.consistent, h.complete, h.consistent_snapshot⟩

/-! ### Builds -/

namespace Build

/-- Every graph that the build of an admissible document goes through is presentable. The built
graph is one of them. -/
theorem build_presentable {settings : Settings} {doc : Document} (h : Admissible settings doc) :
    (∀ p rest, Reaches settings doc p rest → p.graph.Presentable) ∧
      (doc.build settings).graph.Presentable := by
  have hpoint : ∀ p rest, Reaches settings doc p rest → p.graph.Presentable :=
    fun p rest hreach => (hreach.sound h).graph.presentable
  exact ⟨hpoint, hpoint _ [] (Reaches.build settings doc)⟩

theorem build_presentable_recurringScope :
    Admissible Settings.default recurringScope ∧
      (recurringScope.build Settings.default).graph.snapshot.ids = ["b", "t", "s"] ∧
      (recurringScope.build Settings.default).graph.snapshot.refs =
        [⟨"b", "s", none⟩, ⟨"b", "s", some "edge2"⟩] ∧
      (∀ p rest, Reaches Settings.default recurringScope p rest → p.graph.Presentable) ∧
      (recurringScope.build Settings.default).graph.Presentable :=
  ⟨admissible_recurringScope, by rfl, by rfl, build_presentable admissible_recurringScope⟩

end Build

end ClusterGraph
