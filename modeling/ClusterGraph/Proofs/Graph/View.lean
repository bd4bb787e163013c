import ClusterGraph.Proofs.Graph.EdgeKey
import Mathlib.Data.List.Nodup

/-!
# What a graph shows of its nesting and of its edges

The tables of a `Graph` are read here through a few views: the node ids, the **container** of a
node and the ids **listed** under a container on one side, the stored edges, their keys and what is
**filed** with the nodes on the other. `Graph.SameNesting` and `Graph.SameLinks` say that a change
leaves one side as it was; every operation of a graph that concerns one side only keeps the other.
-/

namespace ClusterGraph

/-- The entry of a node files an edge, as incoming or as outgoing. -/
def NodeEntry.Files (entry : NodeEntry) (key : String) (ref : EdgeRef) : Prop :=
  entry.incoming.get? key = some ref ∨ entry.outgoing.get? key = some ref

/-- Taking out the one occurrence of a value leaves the other values. -/
theorem erase_eq_filter_ne {α : Type} [DecidableEq α] {l : List α} (h : l.Nodup) (a : α) :
    l.erase a = l.filter fun x => x ≠ a := by
  rw [h.erase_eq_filter]
  refine List.filter_congr fun x _ => ?_
  simp only [ne_eq, decide_not]
  rfl

namespace Graph

/-! ### Views -/

/-- What a node lies in: another node, or `rootId` for the graph itself. -/
def container? (g : Graph) (id : String) : Option String := (g.nodes.get? id).map NodeEntry.parent

/-- The members listed under an id. -/
def listed (g : Graph) (id : String) : List String := (g.members.get? id).getD []

/-- An edge is filed with a node under a key. -/
def Files (g : Graph) (id key : String) (ref : EdgeRef) : Prop :=
  ∃ entry, g.nodes.get? id = some entry ∧ entry.Files key ref

variable {g g' g'' : Graph} {id key : String} {ref : EdgeRef}

/-- The graph knows its own nodes. -/
theorem hasNode_iff : g.hasNode id = true ↔ id ∈ g.nodeIds := Table.contains_iff

/-- The graph knows which nodes it does not have. -/
theorem hasNode_eq_false_iff : g.hasNode id = false ↔ id ∉ g.nodeIds := by
  rw [← hasNode_iff, Bool.not_eq_true]

/-- No node is listed twice. -/
theorem nodeIds_nodup (g : Graph) : g.nodeIds.Nodup := g.nodes.keys_nodup

/-- What is stored about a node is stored about a node of the graph. -/
theorem mem_nodeIds_of_get? {entry : NodeEntry} (h : g.nodes.get? id = some entry) :
    id ∈ g.nodeIds :=
  Table.mem_keys_of_get? h

/-- The nodes of a graph, and they alone, have a container. -/
theorem container?_isSome_iff : (g.container? id).isSome ↔ id ∈ g.nodeIds := by
  rw [container?, Option.isSome_map]
  exact Table.get?_isSome_iff

/-- What is no node has no container. -/
theorem container?_eq_none_iff : g.container? id = none ↔ id ∉ g.nodeIds := by
  rw [← container?_isSome_iff, Option.not_isSome_iff_eq_none]

/-- What lies somewhere is a node. -/
theorem mem_nodeIds_of_container? {p : String} (h : g.container? id = some p) : id ∈ g.nodeIds :=
  container?_isSome_iff.1 (by simp [h])

/-- An edge is filed with nodes only. -/
theorem Files.mem_nodeIds (h : g.Files id key ref) : id ∈ g.nodeIds := by
  obtain ⟨entry, hentry, -⟩ := h
  exact mem_nodeIds_of_get? hentry

/-- In a compound graph the children of a node are read off the lists of members. -/
theorem children_eq_listed (h : g.compound = true) (id : String) : g.children id = g.listed id := by
  rw [children, if_pos h, listed]

/-- In a compound graph the parent of a node is its container, unless that is the graph itself. -/
theorem parent?_eq_some_iff (h : g.compound = true) {p : String} :
    g.parent? id = some p ↔ g.container? id = some p ∧ p ≠ rootId := by
  rw [parent?, if_pos h, container?]
  cases g.nodes.get? id with
  | none => simp
  | some entry =>
    by_cases hp : entry.parent = rootId
    · simp only [Option.bind_some, if_pos hp, Option.map_some, Option.some.injEq, reduceCtorEq,
        false_iff, not_and, not_not]
      exact fun e => e ▸ hp
    · simp only [Option.bind_some, if_neg hp, Option.map_some, Option.some.injEq]
      exact ⟨fun e => ⟨e, e ▸ hp⟩, fun e => e.1⟩

/-! ### Changes on one side only -/

/-- Two graphs with the same nodes, nested in the same way. -/
structure SameNesting (g g' : Graph) : Prop where
  compound : g'.compound = g.compound
  nodeIds : g'.nodeIds = g.nodeIds
  container? : ∀ id, g'.container? id = g.container? id
  listed : ∀ id, g'.listed id = g.listed id
  nodeCount : g'.nodeCount = g.nodeCount

/-- Two graphs with the same edges, up to their labels, that are filed in the same way. -/
structure SameLinks (g g' : Graph) : Prop where
  directed : g'.directed = g.directed
  multigraph : g'.multigraph = g.multigraph
  keys : g'.edges.keys = g.edges.keys
  edgeRefs : g'.edgeRefs = g.edgeRefs
  files : ∀ id key ref, g'.Files id key ref ↔ g.Files id key ref
  edgeCount : g'.edgeCount = g.edgeCount

theorem SameNesting.refl (g : Graph) : SameNesting g g :=
  ⟨rfl, rfl, fun _ => rfl, fun _ => rfl, rfl⟩

/-- Changes that keep the nesting can be made one after another. -/
theorem SameNesting.trans (h : SameNesting g g') (h' : SameNesting g' g'') : SameNesting g g'' where
  compound := h'.compound.trans h.compound
  nodeIds := h'.nodeIds.trans h.nodeIds
  container? id := (h'.container? id).trans (h.container? id)
  listed id := (h'.listed id).trans (h.listed id)
  nodeCount := h'.nodeCount.trans h.nodeCount

theorem SameLinks.refl (g : Graph) : SameLinks g g :=
  ⟨rfl, rfl, rfl, rfl, fun _ _ _ => Iff.rfl, rfl⟩

/-- Changes that keep the edges can be made one after another. -/
theorem SameLinks.trans (h : SameLinks g g') (h' : SameLinks g' g'') : SameLinks g g'' where
  directed := h'.directed.trans h.directed
  multigraph := h'.multigraph.trans h.multigraph
  keys := h'.keys.trans h.keys
  edgeRefs := h'.edgeRefs.trans h.edgeRefs
  files id key ref := (h'.files id key ref).trans (h.files id key ref)
  edgeCount := h'.edgeCount.trans h.edgeCount

/-- The graph with the entry of one node changed. -/
def modifyEntry (g : Graph) (node : String) (f : NodeEntry → NodeEntry) : Graph :=
  { g with nodes := g.nodes.modify node f }

/-- A change to what is stored about one node keeps the nesting when it keeps the parent there. -/
theorem sameNesting_modifyEntry {f : NodeEntry → NodeEntry}
    (hf : ∀ entry, (f entry).parent = entry.parent) (g : Graph) (node : String) :
    SameNesting g (g.modifyEntry node f) where
  compound := rfl
  nodeIds := Table.keys_modify _ _ _
  container? _ := Table.map_get?_modify hf _ _ _
  listed _ := rfl
  nodeCount := rfl

/-- After a change to one node, edges are filed with that node as the change says, and as before
with the others. -/
theorem files_modifyEntry (g : Graph) (node : String) (f : NodeEntry → NodeEntry) (id key : String)
    (ref : EdgeRef) : (g.modifyEntry node f).Files id key ref ↔
      ∃ entry, g.nodes.get? id = some entry ∧
        (if id = node then f entry else entry).Files key ref := by
  rw [Files, modifyEntry]
  rw [Table.get?_modify]
  by_cases h : id = node
  · simp only [if_pos h, Option.map_eq_some_iff, exists_exists_and_eq_and]
  · simp only [if_neg h]

/-- A change to what is stored about one node keeps the edges when it files the same ones. -/
theorem sameLinks_modifyEntry {f : NodeEntry → NodeEntry}
    (hf : ∀ entry key ref, (f entry).Files key ref ↔ entry.Files key ref) (g : Graph)
    (node : String) : SameLinks g (g.modifyEntry node f) where
  directed := rfl
  multigraph := rfl
  keys := rfl
  edgeRefs := rfl
  files id key ref := by
    rw [files_modifyEntry]
    by_cases h : id = node <;> simp [h, hf, Files]
  edgeCount := rfl

/-! ### Labels -/

/-- The label of a node has no part in the nesting. -/
theorem sameNesting_modifyNode (g : Graph) (id : String) (f : PlacedLabel → PlacedLabel) :
    SameNesting g (g.modifyNode id f) := by
  refine sameNesting_modifyEntry (fun _ => ?_) g id
  rfl

/-- The label of a node has no part in the edges. -/
theorem sameLinks_modifyNode (g : Graph) (id : String) (f : PlacedLabel → PlacedLabel) :
    SameLinks g (g.modifyNode id f) := by
  refine sameLinks_modifyEntry (fun _ _ _ => ?_) g id
  rfl

/-- The label of an edge has no part in the nesting. -/
theorem sameNesting_modifyEdge (g : Graph) (v w : String) (name : Option String)
    (f : EdgeLabel → EdgeLabel) : SameNesting g (g.modifyEdge v w name f) :=
  ⟨rfl, rfl, fun _ => rfl, fun _ => rfl, rfl⟩

/-- The label of an edge has no part in the edges: they keep their keys and their order. -/
theorem sameLinks_modifyEdge (g : Graph) (v w : String) (name : Option String)
    (f : EdgeLabel → EdgeLabel) : SameLinks g (g.modifyEdge v w name f) where
  directed := rfl
  multigraph := rfl
  keys := Table.keys_modify _ _ _
  edgeRefs := by
    simp only [edgeRefs, modifyEdge, Table.values, Table.entries_modify, List.map_map]
    refine List.map_congr_left fun entry _ => ?_
    simp only [Function.comp_apply]
    split <;> rfl
  files _ _ _ := Iff.rfl
  edgeCount := rfl

end Graph

end ClusterGraph
