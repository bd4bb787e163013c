import ClusterGraph.Proofs.Build.Consistency
import ClusterGraph.Proofs.Build.LinkSequence

/-!
# Removing a node from a build

`State.removeNode` goes by what is filed with a node, which in an undirected graph may name edges
twice and edges that are gone. In every state that the build of an admissible document goes through
it still takes out one node without members and the edges that have it as an end, and nothing else
(`Graph.LosesNode`). What is performed behind the removal finds none of these edges: as long as
nothing links the id, it is the end of no edge, and the first link makes an edge that starts from
the defaults in force (`Build.removeNode_losesNode`).
-/

namespace ClusterGraph

/-! ### Snapshots without a node -/

/-- What is left of a snapshot without a node: it is no longer shown, nor among the members of
another, and the edges that have it as an end are not shown either. -/
def Snapshot.without (s : Snapshot) (id : String) : Snapshot :=
  { s with
    nodes := (s.nodes.filter fun node => node.id ≠ id).map fun node =>
      { node with children := node.children.filter (· ≠ id) }
    edges := s.edges.filter fun edge => ¬ edge.ref.HasEnd id }

/-- A node without members is taken out of a graph with the edges that have it as an end, and
nothing else is seen to change. -/
structure Graph.LosesNode (id : String) (g g' : Graph) : Prop where
  snapshot : g'.snapshot = g.snapshot.without id
  children : ∀ x, g'.children x = (g.children x).filter (· ≠ id)
  nodeCount : g'.nodeCount + 1 = g.nodeCount
  edgeCount : g'.edgeCount + (g.edgeRefs.filter fun ref => ref.HasEnd id).length = g.edgeCount

/-- Among chosen nodes only the one that is taken out is missing. -/
theorem Rows.filter_remove (rows : Rows) (id : String) (p : NodeRow → Bool) :
    ((rows.remove id).filter p).map NodeRow.id =
      ((rows.filter p).map NodeRow.id).filter (· ≠ id) := by
  rw [Rows.remove, List.filter_comm, List.filter_map]
  rfl

theorem Outline.snapshot_removeNode (o : Outline) (id : String) :
    (o.removeNode id).snapshot = o.snapshot.without id := by
  have hmembers : ∀ x, (o.nodes.remove id).members x = (o.nodes.members x).filter (· ≠ id) :=
    fun x => o.nodes.filter_remove id _
  simp only [snapshot, removeNode, Snapshot.without, hmembers]
  simp only [Rows.remove, List.filter_map, List.map_map]
  rfl

namespace Graph

variable {g : Graph} {id : String}

theorem Sound.losesNode (h : g.Sound) (hid : id ∈ g.nodeIds) (hempty : g.children id = []) :
    LosesNode id g (g.removeWithEdges id) := by
  have hlisted : g.listed id = [] := by rwa [← children_eq_listed h.nested.compound]
  have hwithout := h.removeWithEdges hlisted
  have houtline := h.outline_removeWithEdges hlisted
  -- what is shown and counted is read off the outline, which holds no files of nodes
  refine ⟨?_, fun x => ?_, ?_, ?_⟩
  · rw [hwithout.sound.snapshot_eq, houtline, Outline.snapshot_removeNode, h.snapshot_eq]
  · rw [hwithout.sound.nested.children_eq_filter, houtline, h.nested.children_eq_filter]
    exact g.outline.nodes.filter_remove id _
  · have hpos : 0 < g.nodeIds.length := List.length_pos_of_mem hid
    rw [hwithout.sound.nested.nodeCount_eq, h.nested.nodeCount_eq, hwithout.nodeIds,
      ← erase_eq_filter_ne g.nodeIds_nodup, List.length_erase_of_mem hid]
    omega
  · have hsplit := g.edgeRefs.length_eq_length_filter_add fun ref => ref.HasEnd id
    rw [hwithout.sound.linked.edgeCount_eq, h.linked.edgeCount_eq, hwithout.edgeRefs, hsplit,
      Nat.add_comm]
    simp only [decide_not]

end Graph

namespace Build

variable {settings : Settings} {doc : Document} {p : Progress} {action : Action}
  {rest : List Action} {id v w : String} {k : Sketch}

/-! ### Nodes without edges -/

/-- An action links a given node. -/
def Action.Links (id : String) : Action → Prop
  | .link v w _ => v = id ∨ w = id
  | _ => False

instance (id : String) (action : Action) : Decidable (action.Links id) := by
  cases action <;> unfold Action.Links <;> infer_instance

namespace Sketch

/-- A node is the end of no edge. -/
def Unlinked (id : String) (k : Sketch) : Prop := ∀ ref ∈ k.outline.refs, ¬ ref.HasEnd id

/-- Only a link of the node gives it an edge. -/
theorem Unlinked.perform (h : k.Unlinked id) (settings : Settings) (hlinks : ¬ action.Links id) :
    (k.perform settings action).Unlinked id := by
  by_cases hquiet : action.isQuiet = true
  · intro ref href
    rw [Outline.refs, edges_perform hquiet settings] at href
    exact h ref href
  · -- left are a subgraph without an id, a link of other nodes, and a removal
    cases action with
    | enter name =>
      cases name with
      | none => exact h
      | some name => exact absurd rfl hquiet
    | link v w attrs =>
      intro ref href
      simp only [Sketch.perform, connect, Outline.refs_link] at href
      split at href
      · exact h ref href
      · rcases List.mem_append.1 href with href | href
        · exact h ref href
        · rw [List.mem_singleton.1 href, EdgeRef.hasEnd_ofEnds]
          exact hlinks
    | elide =>
      intro ref href
      refine h ref ?_
      simp only [Sketch.perform] at href
      cases hscopes : k.scopes with
      | nil => rwa [hscopes] at href
      | cons c outer =>
        rw [hscopes] at href
        simp only [Outline.elide] at href
        split at href
        · -- a removal only takes edges out
          exact (List.filter_sublist.map EdgeEntry.ref).subset href
        · exact href
    | addScope | addNode | mergeNode | attr | inlineAttr | skipStatement | skipElement | leave =>
      exact absurd rfl hquiet

theorem Unlinked.performAll {actions : List Action} (h : k.Unlinked id) (settings : Settings)
    (hlinks : ∀ action ∈ actions, ¬ action.Links id) :
    (k.performAll settings actions).Unlinked id := by
  induction actions generalizing k with
  | nil => exact h
  | cons action actions ih =>
    exact ih (h.perform settings (hlinks action List.mem_cons_self)) fun action' haction' =>
      hlinks action' (List.mem_cons_of_mem _ haction')

/-- The first link of a node makes an edge without a name that starts from the defaults in
force. -/
theorem Unlinked.edges_link (h : k.Unlinked id) (settings : Settings) (hend : v = id ∨ w = id)
    (attrs : Attrs) : (k.perform settings (.link v w attrs)).outline.edges =
      k.outline.edges ++ [⟨EdgeRef.ofEnds k.outline.directed v w none,
        ⟨k.defaults.current.edge.overlay attrs, edgePoints settings attrs⟩⟩] := by
  have hnew : EdgeRef.ofEnds k.outline.directed v w none ∉ k.outline.refs :=
    fun href => h _ href (EdgeRef.hasEnd_ofEnds.2 hend)
  have hname : k.nextNumber v w = none := if_neg fun hguard => hnew hguard.2
  rw [Sketch.perform, connect, hname, Option.map_none, Outline.link_of_not_mem _ _ _ hnew,
    EdgeLabel.merge_ofAttrs]
  rfl

end Sketch

/-! ### Removals -/

/-- A node has no edges, and the first link gives it one without a name, behind all others, that has
the defaults in force and what the link merges. -/
structure Progress.StartsUnlinked (settings : Settings) (id : String) (p : Progress) : Prop where
  unlinked : ∀ ref ∈ p.graph.edgeRefs, ¬ ref.HasEnd id
  link : ∀ v w attrs, IsPlain v → IsPlain w → v = id ∨ w = id →
    (perform settings p (.link v w attrs)).graph.snapshot.edges = p.graph.snapshot.edges ++
      [⟨(Graph.orderEnds p.graph.directed v w).1, (Graph.orderEnds p.graph.directed v w).2, none,
        p.state.defaults.current.edge.overlay attrs, edgePoints settings attrs⟩]

theorem Progress.Sound.startsUnlinked (hadmissible : Admissible settings doc) (h : p.Sound doc)
    (hunlinked : p.sketch.Unlinked id) : p.StartsUnlinked settings id := by
  refine ⟨hunlinked, fun v w attrs hv hw hend => ?_⟩
  have hids : ∀ x ∈ (Action.link v w attrs).ids, IsPlain x := by
    intro x hx
    rcases List.mem_cons.1 hx with rfl | hx
    · exact hv
    · exact List.mem_singleton.1 hx ▸ hw
  have hedges := hunlinked.edges_link settings hend attrs
  rw [← sketch_perform settings h hids] at hedges
  rw [(h.perform hadmissible hids).graph.snapshot_eq, h.graph.snapshot_eq]
  exact (congrArg (List.map _) hedges).trans List.map_append

/-- A build goes on from a sound state when a node without members has been removed, and this node
has no edges. -/
theorem Progress.Sound.removeNode (h : p.Sound doc) (hempty : p.graph.children id = []) :
    Progress.Sound doc ⟨p.state.removeNode id, p.scopes⟩ ∧
      Sketch.Unlinked id (Progress.sketch ⟨p.state.removeNode id, p.scopes⟩) := by
  have hlisted : p.graph.listed id = [] := by
    rwa [← Graph.children_eq_listed h.graph.nested.compound]
  have hwithout := h.graph.removeWithEdges hlisted
  refine ⟨⟨hwithout.sound, h.scopes, hwithout.directed.trans h.directed,
    hwithout.multigraph.trans h.multigraph, h.accepted⟩, fun ref href => ?_⟩
  have hmem : ref ∈ (p.graph.removeWithEdges id).edgeRefs := href
  rw [hwithout.edgeRefs, List.mem_filter] at hmem
  exact of_decide_eq_true hmem.2

/-- In every state of the build of an admissible document, removing a node without members takes
out that node with the edges that have it as an end, and nothing else. Whatever is performed
behind the removal, the id has no edges until it is linked, and its first link makes a new one. -/
theorem removeNode_losesNode (hadmissible : Admissible settings doc)
    (h : Reaches settings doc p rest) (hid : id ∈ p.graph.nodeIds)
    (hempty : p.graph.children id = []) :
    Graph.LosesNode id p.graph (p.state.removeNode id).graph ∧
    ∀ later : List Action, (∀ action ∈ later, ∀ x ∈ action.ids, IsPlain x) →
      (∀ action ∈ later, ¬ action.Links id) →
      (performAll settings ⟨p.state.removeNode id, p.scopes⟩ later).StartsUnlinked settings id := by
  have hsound := h.sound hadmissible
  refine ⟨hsound.graph.losesNode hid hempty, fun later hplain hlinks => ?_⟩
  obtain ⟨hremoved, hunlinked⟩ := hsound.removeNode hempty
  obtain ⟨hlater, hsketch⟩ := hremoved.sketch_performAll hadmissible hplain
  refine hlater.startsUnlinked hadmissible ?_
  rw [hsketch]
  exact hunlinked.performAll settings hlinks

/-- Behind the links of `recurringScope`, one of the nodes is linked with itself twice, and with a
third node. -/
def recurringLoops : Document :=
  { recurringScope with
    stmts := recurringScope.stmts ++
      [.edge [.node "b" Attrs.empty, .node "b" Attrs.empty, .node "b" Attrs.empty] Attrs.empty,
        .edge [.node "s" Attrs.empty, .node "a" Attrs.empty, .node "b" Attrs.empty] Attrs.empty] }

/-- The node files the edges with itself twice, and an edge that is gone. -/
theorem removeNode_losesNode_recurringLoops :
    ∃ p, Admissible Settings.default recurringLoops ∧ Reaches Settings.default recurringLoops p [] ∧
      "b" ∈ p.graph.nodeIds ∧ p.graph.children "b" = [] ∧
      p.graph.nodeEdges? "b" none = some [⟨"b", "s", some "edge1"⟩, ⟨"b", "s", some "edge2"⟩,
        ⟨"b", "b", none⟩, ⟨"b", "b", some "edge3"⟩, ⟨"a", "b", none⟩, ⟨"b", "s", none⟩,
        ⟨"b", "b", none⟩, ⟨"b", "b", some "edge3"⟩] ∧
      p.graph.edgeCount = 6 ∧ (p.state.removeNode "b").graph.edgeRefs = [⟨"a", "s", none⟩] ∧
      Graph.LosesNode "b" p.graph (p.state.removeNode "b").graph ∧
      (performAll Settings.default ⟨p.state.removeNode "b", p.scopes⟩
        [.addNode "b"]).StartsUnlinked Settings.default "b" := by
  have hadmissible : Admissible Settings.default recurringLoops := ⟨by decide, by decide⟩
  have hreach := Reaches.build Settings.default recurringLoops
  have hmem : "b" ∈ (statements Settings.default none (start recurringLoops)
      recurringLoops.stmts).graph.nodeIds := by decide +kernel
  have hempty : (statements Settings.default none (start recurringLoops)
      recurringLoops.stmts).graph.children "b" = [] := by decide +kernel
  obtain ⟨hloses, hlater⟩ := removeNode_losesNode hadmissible hreach hmem hempty
  exact ⟨_, hadmissible, hreach, hmem, hempty, by decide +kernel, by decide +kernel,
    by decide +kernel, hloses, hlater [.addNode "b"] (by decide) (by decide)⟩

end Build

end ClusterGraph
