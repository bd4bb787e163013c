import ClusterGraph.Proofs.Build.AddedNodes
import ClusterGraph.Proofs.Label.Overlay

/-!
# A chain of edges in two parts

Carrying out a chain is carrying out its first elements and then, behind what they stand for, the
others (`chain_append`). When the last of the first elements is a node, the others may start with
the same node in a chain of their own: all that this repeats is the statement of the node, and in
between the links keep the label of every node that is there (`Graph.KeepsLabels`), so the node has
what its statement gives it and the second time does nothing. Hence `a -> b -> c` is `a -> b` and
then `b -> c` (`statement_edge_append`), whatever stands before and behind the node.
-/

namespace ClusterGraph

namespace Graph

variable {g g' g'' : Graph} {id : String}

/-! ### Labels of nodes -/

/-- Every node is still there with its label. -/
def KeepsLabels (g g' : Graph) : Prop :=
  ∀ id label, g.node? id = some label → g'.node? id = some label

theorem KeepsLabels.refl (g : Graph) : KeepsLabels g g := fun _ _ h => h

theorem KeepsLabels.trans (h : KeepsLabels g g') (h' : KeepsLabels g' g'') : KeepsLabels g g'' :=
  fun id label hlabel => h' id label (h id label hlabel)

theorem keepsLabels_setNode_none (g : Graph) (id : String) : KeepsLabels g (g.setNode id none) := by
  intro x label hlabel
  by_cases hid : id ∈ g.nodeIds
  · rwa [setNode_none_of_mem hid]
  · -- the node that is added is not the one whose label is looked up
    have hne : x ≠ id := by
      rintro rfl
      rw [node?, Table.get?_eq_none_iff.2 hid] at hlabel
      cases hlabel
    have hget : ∀ entry, (g.nodes.insert id entry).get? x = g.nodes.get? x := fun entry => by
      rw [Table.get?_insert, if_neg hne]
    rw [setNode_none_of_not_mem hid, node?, addNode]
    split <;> exact (congrArg (Option.map NodeEntry.label) (hget _)).trans hlabel

theorem keepsLabels_addEdge (g : Graph) (v w : String) (name : Option String) (label : EdgeLabel) :
    KeepsLabels g (g.addEdge v w name label) := by
  intro x old hold
  refine (Table.map_get?_modify (fun _ => ?_) _ _ _).trans
    ((Table.map_get?_modify (fun _ => ?_) _ _ _).trans hold) <;> rfl

theorem keepsLabels_setEdge {v w : String} {label : Option EdgeLabel} {name : Option String}
    (h : g.setEdge v w label name = .ok g') : KeepsLabels g g' := by
  unfold setEdge at h
  split at h
  · cases label <;>
    · obtain rfl := Except.ok.inj h
      exact fun _ _ hlabel => hlabel
  · split at h
    · cases h
    · obtain rfl := Except.ok.inj h
      exact ((keepsLabels_setNode_none g v).trans (keepsLabels_setNode_none _ w)).trans
        (keepsLabels_addEdge _ v w name _)

/-- The label that a node has when its label is changed. -/
theorem node?_modifyNode_self (h : id ∈ g.nodeIds) (f : PlacedLabel → PlacedLabel) :
    ∃ label, (g.modifyNode id f).node? id = some (f label) := by
  obtain ⟨entry, hentry⟩ := Option.isSome_iff_exists.1 (Table.get?_isSome_iff.2 h)
  refine ⟨entry.label, ?_⟩
  rw [node?, modifyNode]
  dsimp only
  rw [Table.get?_modify, if_pos rfl, hentry]
  rfl

/-- A change that leaves the label of a node as it is does nothing. -/
theorem modifyNode_eq_self {f : PlacedLabel → PlacedLabel} {label : PlacedLabel}
    (h : g.node? id = some label) (hf : f label = label) : g.modifyNode id f = g := by
  have hnodes :
      g.nodes.modify id (fun entry => { entry with label := f entry.label }) = g.nodes := by
    refine Table.ext_entries ?_
    rw [Table.entries_modify]
    refine (List.map_congr_left fun ⟨key, entry⟩ hmem => ?_).trans (List.map_id _)
    by_cases hkey : key = id
    · subst hkey
      have hentry : g.nodes.get? key = some entry := Table.mem_entries_iff.1 hmem
      rw [node?, hentry] at h
      obtain rfl := Option.some.inj h
      simp only [if_true, hf, id_eq]
    · simp only [if_neg hkey, id_eq]
  rw [modifyNode, hnodes]

end Graph

namespace Build

variable {settings : Settings}

namespace State

variable (s : State)

/-! ### Links -/

theorem keepsLabels_connect (stem v w : String) (attrs : Attrs) (points : Option (List Point)) :
    Graph.KeepsLabels s.graph (s.connect stem v w attrs points).graph := by
  have hgraph : (s.nextEdgeName stem v w).2.graph = s.graph := by
    rw [s.nextEdgeName_snd]
  rw [connect]
  dsimp only
  rw [hgraph]
  split
  · exact .refl s.graph
  · split
    · next hedge => exact (Graph.keepsLabels_setEdge hedge).trans fun _ _ hlabel => hlabel
    · rw [report, hgraph]
      exact .refl _

/-- Links keep the label of every node that is there, however many they are. -/
theorem keepsLabels_connectAll (stem : String) (sources targets : List String) (attrs : Attrs)
    (points : Option (List Point)) :
    Graph.KeepsLabels s.graph (s.connectAll stem sources targets attrs points).graph := by
  have hrow : ∀ v (s : State), Graph.KeepsLabels s.graph
      (targets.foldl (fun s w => s.connect stem v w attrs points) s).graph := by
    intro v s
    induction targets generalizing s with
    | nil => exact .refl s.graph
    | cons w targets ih => exact (s.keepsLabels_connect stem v w attrs points).trans (ih _)
  rw [connectAll]
  induction sources generalizing s with
  | nil => exact .refl s.graph
  | cons v sources ih => exact (hrow v s).trans (ih _)

theorem connectAll_nil_left (stem : String) (targets : List String) (attrs : Attrs)
    (points : Option (List Point)) : s.connectAll stem [] targets attrs points = s := rfl

end State

/-! ### Repeating the statement of a node -/

/-- The statement of a node does nothing once it has been carried out, as long as the node is there
with its label. -/
theorem nodeStatement_of_keepsLabels {s s' : State} {scope : Option String} {id : String}
    {attrs : Attrs}
    (h : Graph.KeepsLabels (nodeStatement settings s scope id attrs).graph s'.graph) :
    nodeStatement settings s' scope id attrs = s' := by
  obtain ⟨label, hlabel⟩ := Graph.node?_modifyNode_self (s.mem_nodeIds_ensureNode id scope)
    fun label => label.merge attrs (nodeGeometry settings attrs)
  have hnow := h id _ hlabel
  have hmem : s'.graph.hasNode id = true := by
    rw [Graph.node?, Option.map_eq_some_iff] at hnow
    obtain ⟨entry, hentry, -⟩ := hnow
    exact Graph.hasNode_iff.2 (Graph.mem_nodeIds_of_get? hentry)
  have hsame := Graph.modifyNode_eq_self (f := fun label =>
    label.merge attrs (nodeGeometry settings attrs)) hnow (label.merge_merge_self attrs _)
  rw [nodeStatement, State.ensureNode, if_pos hmem, hsame]

/-! ### Chains -/

/-- A chain in two parts: the second one goes on behind what the first one ends with. -/
theorem chain_append (scope : Option String) (attrs : Attrs) (prev : List String) (s : State)
    (xs ys : List Statement) :
    chain settings scope attrs prev s (xs ++ ys) =
      chain settings scope attrs (xs.foldl nextEnds prev) (chain settings scope attrs prev s xs)
        ys := by
  induction xs generalizing prev s with
  | nil => rfl
  | cons elem xs ih =>
    rw [List.foldl_cons, ← nextEnds_eq settings attrs prev elem (statement settings scope s elem)]
    exact ih _ _

/-- A chain that starts with a node goes on behind that node. -/
theorem chain_node_cons (scope : Option String) (attrs : Attrs) (prev : List String) (s : State)
    (id : String) (own : Attrs) (ys : List Statement) :
    chain settings scope attrs prev s (.node id own :: ys) =
      chain settings scope attrs [id] ((nodeStatement settings s scope id own).connectAll
        settings.edgeNameStem prev [id] attrs (edgePoints settings attrs)) ys := rfl

/-- An edge statement may be cut at a node: its elements up to the node and those from the node on,
as two edge statements with the same attributes, make the same state. So `a -> b -> c` is
`a -> b; b -> c`. -/
theorem statement_edge_append (settings : Settings) (scope : Option String) (s : State)
    (xs ys : List Statement) (id : String) (own attrs : Attrs) :
    statement settings scope s (.edge (xs ++ [.node id own] ++ ys) attrs) =
      statement settings scope
        (statement settings scope s (.edge (xs ++ [.node id own]) attrs))
        (.edge ([.node id own] ++ ys) attrs) := by
  -- behind `xs` the node is declared and linked with what `xs` ends with
  let declared := nodeStatement settings (chain settings scope attrs [] s xs) scope id own
  let linked := declared.connectAll settings.edgeNameStem (xs.foldl nextEnds []) [id] attrs
    (edgePoints settings attrs)
  have hfirst : chain settings scope attrs [] s (xs ++ [.node id own]) = linked := by
    rw [chain_append]
    rfl
  have hagain : nodeStatement settings linked scope id own = linked :=
    nodeStatement_of_keepsLabels (declared.keepsLabels_connectAll _ _ _ _ _)
  simp only [statement]
  calc chain settings scope attrs [] s (xs ++ [.node id own] ++ ys)
      = chain settings scope attrs [id] linked ys := by
        rw [List.append_assoc, chain_append]
        rfl
    _ = chain settings scope attrs [] linked ([.node id own] ++ ys) := by
        rw [List.singleton_append, chain_node_cons, State.connectAll_nil_left, hagain]
    _ = chain settings scope attrs [] (chain settings scope attrs [] s (xs ++ [.node id own]))
          ([.node id own] ++ ys) := by
        rw [hfirst]

end Build

end ClusterGraph
