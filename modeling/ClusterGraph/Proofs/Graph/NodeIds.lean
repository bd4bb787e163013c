import ClusterGraph.Proofs.Graph.Nesting

/-!
# Which nodes an operation adds and takes away

Which nodes a graph has, and how many it counts, can be followed through every operation whatever
the ids are like, also where the nesting and the keys of edges go wrong because an id holds one of
the characters that the graph reserves for itself. Most operations change neither
(`Graph.SameNodes`). Those that add nodes keep the nodes before them and the count right
(`Graph.AddsNodes`), and a node is taken away by `Graph.removeNode` only.
-/

namespace ClusterGraph.Graph

variable {g g' g'' : Graph} {id : String}

/-! ### Changes that leave the nodes alone -/

/-- Two graphs with the same nodes in the same order. -/
structure SameNodes (g g' : Graph) : Prop where
  nodeIds : g'.nodeIds = g.nodeIds
  nodeCount : g'.nodeCount = g.nodeCount

theorem SameNodes.refl (g : Graph) : SameNodes g g := ⟨rfl, rfl⟩

theorem SameNodes.trans (h : SameNodes g g') (h' : SameNodes g' g'') : SameNodes g g'' :=
  ⟨h'.nodeIds.trans h.nodeIds, h'.nodeCount.trans h.nodeCount⟩

/-- Operations that leave the nodes alone can be run over a list. -/
theorem SameNodes.foldl {α : Type} {op : Graph → α → Graph} (hop : ∀ g a, SameNodes g (op g a))
    (l : List α) (g : Graph) : SameNodes g (l.foldl op g) := by
  induction l generalizing g with
  | nil => exact .refl g
  | cons a l ih => exact (hop g a).trans (ih (op g a))

/-- A label changes, and no node. -/
theorem sameNodes_modifyNode (g : Graph) (id : String) (f : PlacedLabel → PlacedLabel) :
    SameNodes g (g.modifyNode id f) :=
  ⟨Table.keys_modify _ _ _, rfl⟩

/-- The label of an edge changes, and no node. -/
theorem sameNodes_modifyEdge (g : Graph) (v w : String) (name : Option String)
    (f : EdgeLabel → EdgeLabel) : SameNodes g (g.modifyEdge v w name f) :=
  ⟨rfl, rfl⟩

/-- A node that is moved into another one stays where it stands in the list. -/
theorem sameNodes_moveTo (g : Graph) (id container : String) :
    SameNodes g (g.moveTo id container) := by
  cases hentry : g.nodes.get? id with
  | none =>
    simp only [moveTo, hentry]
    exact .refl g
  | some entry =>
    simp only [moveTo, hentry]
    exact ⟨Table.keys_modify _ _ _, rfl⟩

/-- An edge is filed with nodes that are there. -/
theorem sameNodes_addEdge (g : Graph) (v w : String) (name : Option String) (label : EdgeLabel) :
    SameNodes g (g.addEdge v w name label) :=
  ⟨(Table.keys_modify _ _ _).trans (Table.keys_modify _ _ _), rfl⟩

/-- The ends of an edge outlive it. -/
theorem sameNodes_removeEdge (g : Graph) (v w : String) (name : Option String) :
    SameNodes g (g.removeEdge v w name) := by
  cases hentry : g.edges.get? (edgeKey g.directed v w name) with
  | none =>
    simp only [removeEdge, hentry]
    exact .refl g
  | some edge =>
    simp only [removeEdge, hentry]
    exact ⟨(Table.keys_modify _ _ _).trans (Table.keys_modify _ _ _), rfl⟩

/-- The ends of the edge under a key outlive it, whatever the key. -/
theorem sameNodes_removeUnnamed (g : Graph) (key : String) : SameNodes g (g.removeUnnamed key) := by
  rw [removeUnnamed]
  split
  · exact .refl g
  · exact sameNodes_removeEdge g _ _ none

/-! ### Adding nodes -/

/-- A graph counts as many nodes as it has. -/
def Counted (g : Graph) : Prop := g.nodeCount = g.nodeIds.length

/-- The count is right when it was and the nodes are the same. -/
theorem SameNodes.counted (h : SameNodes g g') (hg : g.Counted) : g'.Counted := by
  rw [Counted, h.nodeCount, h.nodeIds]
  exact hg

/-- A change that adds nodes at most, and counts them. -/
structure AddsNodes (g g' : Graph) : Prop where
  mem : ∀ x ∈ g.nodeIds, x ∈ g'.nodeIds
  counted : g.Counted → g'.Counted

/-- No node need be added. -/
theorem SameNodes.addsNodes (h : SameNodes g g') : AddsNodes g g' :=
  ⟨fun _ hx => h.nodeIds.symm ▸ hx, h.counted⟩

theorem AddsNodes.refl (g : Graph) : AddsNodes g g := (SameNodes.refl g).addsNodes

/-- Operations that add nodes can be run one after another. -/
theorem AddsNodes.trans (h : AddsNodes g g') (h' : AddsNodes g' g'') : AddsNodes g g'' :=
  ⟨fun x hx => h'.mem x (h.mem x hx), fun hg => h'.counted (h.counted hg)⟩

/-- The nodes of a graph to which one has been added, whatever is done to the list of members. -/
private theorem keys_nodes_addNode (g : Graph) (id : String) (label : PlacedLabel) :
    (g.addNode id label).nodeIds = (g.nodes.insert id ⟨label, rootId, .empty, .empty⟩).keys ∧
      (g.addNode id label).nodeCount = g.nodeCount + 1 := by
  simp only [addNode]
  split <;> exact ⟨rfl, rfl⟩

/-- A new node stands behind all others. -/
theorem nodeIds_addNode_of_not_mem (h : id ∉ g.nodeIds) (label : PlacedLabel) :
    (g.addNode id label).nodeIds = g.nodeIds ++ [id] := by
  rw [(keys_nodes_addNode g id label).1, Table.keys_insert]
  exact if_neg h

/-- A new node is counted. -/
theorem addsNodes_addNode (h : id ∉ g.nodeIds) (label : PlacedLabel) :
    AddsNodes g (g.addNode id label) := by
  have hids := nodeIds_addNode_of_not_mem h label
  refine ⟨fun x hx => hids.symm ▸ List.mem_append_left _ hx, fun hg => ?_⟩
  rw [Counted, hids, (keys_nodes_addNode g id label).2, List.length_append, hg]
  rfl

/-- A node that is not there is added, with some label. -/
private theorem setNode_eq_addNode (h : id ∉ g.nodeIds) (label : Option PlacedLabel) :
    ∃ label', g.setNode id label = g.addNode id label' := by
  cases label with
  | none => exact ⟨_, setNode_none_of_not_mem h⟩
  | some label => exact ⟨_, setNode_of_not_mem h label⟩

/-- Making sure of a node adds it when it is missing, and counts it then. -/
theorem addsNodes_setNode (g : Graph) (id : String) (label : Option PlacedLabel) :
    AddsNodes g (g.setNode id label) := by
  by_cases h : id ∈ g.nodeIds
  · cases label with
    | none =>
      rw [setNode_none_of_mem h]
      exact .refl g
    | some label =>
      simp only [setNode, hasNode_iff.2 h, if_true]
      exact (sameNodes_modifyNode g id fun _ => label).addsNodes
  · obtain ⟨label', heq⟩ := setNode_eq_addNode h label
    rw [heq]
    exact addsNodes_addNode h label'

/-- A node that has been made sure of is there. -/
theorem mem_nodeIds_setNode_self (g : Graph) (id : String) (label : Option PlacedLabel) :
    id ∈ (g.setNode id label).nodeIds := by
  by_cases h : id ∈ g.nodeIds
  · exact (addsNodes_setNode g id label).mem id h
  · obtain ⟨label', heq⟩ := setNode_eq_addNode h label
    rw [heq, nodeIds_addNode_of_not_mem h]
    exact List.mem_append_right _ List.mem_cons_self

/-- Nesting a node adds the one that it is put into, if that is missing. -/
theorem addsNodes_setParent {parent : Option String} (h : g.setParent id parent = .ok g') :
    AddsNodes g g' := by
  unfold setParent at h
  split at h
  · cases h
  · cases parent with
    | none =>
      obtain rfl := Except.ok.inj h
      exact (addsNodes_setNode g id none).trans (sameNodes_moveTo _ _ _).addsNodes
    | some parent =>
      dsimp only at h
      split at h
      · cases h
      · obtain rfl := Except.ok.inj h
        exact ((addsNodes_setNode g parent none).trans (addsNodes_setNode _ id none)).trans
          (sameNodes_moveTo _ _ _).addsNodes

/-- Setting an edge adds its ends, if they are missing. -/
theorem addsNodes_setEdge {v w : String} {label : Option EdgeLabel} {name : Option String}
    (h : g.setEdge v w label name = .ok g') : AddsNodes g g' := by
  unfold setEdge at h
  split at h
  · cases label with
    | none =>
      obtain rfl := Except.ok.inj h
      exact .refl g
    | some label =>
      obtain rfl := Except.ok.inj h
      exact ⟨fun _ hx => hx, fun hg => hg⟩
  · split at h
    · cases h
    · obtain rfl := Except.ok.inj h
      exact ((addsNodes_setNode g v none).trans (addsNodes_setNode _ w none)).trans
        (sameNodes_addEdge _ v w name _).addsNodes

/-! ### Taking a node away -/

/-- What is done to the members and the edges of a node that is taken away leaves the other nodes
alone. -/
theorem removeNode_nodes (g : Graph) (id : String) :
    (g.removeNode id).nodeIds = g.nodeIds.erase id ∧ (g.Counted → (g.removeNode id).Counted) := by
  cases hentry : g.nodes.get? id with
  | none =>
    have hid : id ∉ g.nodeIds := Table.get?_eq_none_iff.1 hentry
    simp only [removeNode, hentry]
    exact ⟨(List.erase_of_not_mem hid).symm, fun hg => hg⟩
  | some entry =>
    have hid : id ∈ g.nodeIds := mem_nodeIds_of_get? hentry
    -- once the entry is out, edges are removed and members moved, and no node comes or goes
    have hsame : SameNodes { g with nodes := g.nodes.erase id, nodeCount := g.nodeCount - 1 }
        (g.removeNode id) := by
      simp only [removeNode, hentry]
      refine SameNodes.trans ?_ (SameNodes.foldl sameNodes_removeUnnamed _ _)
      split
      · have hmoved := SameNodes.foldl (fun g child => sameNodes_moveTo g child rootId)
          (({ g with nodes := g.nodes.erase id, nodeCount := g.nodeCount - 1 }.dropMember
            entry.parent id).children id)
          ({ g with nodes := g.nodes.erase id, nodeCount := g.nodeCount - 1 }.dropMember
            entry.parent id)
        exact ⟨hmoved.nodeIds, hmoved.nodeCount⟩
      · exact .refl _
    have hids : (g.removeNode id).nodeIds = g.nodeIds.erase id :=
      hsame.nodeIds.trans (Table.keys_erase _ _)
    refine ⟨hids, fun hg => ?_⟩
    rw [Counted, hsame.nodeCount, hids, List.length_erase_of_mem hid]
    exact congrArg (· - 1) hg

end ClusterGraph.Graph
