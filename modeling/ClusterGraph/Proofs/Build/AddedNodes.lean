import ClusterGraph.Proofs.Build.Steps
import ClusterGraph.Proofs.Graph.NodeIds

/-!
# Which actions add nodes

Whatever the ids of a document are like, every action but the end of a subgraph adds nodes at most
(`Build.addsNodes_perform`), a node is there when it has been made sure of
(`Build.State.mem_nodeIds_ensureNode`), and every graph that a build goes through counts its nodes
right (`Build.Reaches.counted`).
-/

namespace ClusterGraph.Build

namespace State

variable (s : State)

theorem addsNodes_ensureNode (id : String) (scope : Option String) :
    Graph.AddsNodes s.graph (s.ensureNode id scope).graph := by
  have hadded (label : PlacedLabel) : Graph.AddsNodes s.graph (s.graph.setNode id (some label)) :=
    Graph.addsNodes_setNode s.graph id (some label)
  rw [ensureNode]
  split
  · exact .refl _
  · cases scope with
    | none => exact hadded _
    | some c =>
      dsimp only
      split
      · exact hadded _
      · split
        · next hparent => exact (hadded _).trans (Graph.addsNodes_setParent hparent)
        · exact hadded _

theorem mem_nodeIds_ensureNode (id : String) (scope : Option String) :
    id ∈ (s.ensureNode id scope).graph.nodeIds := by
  have hadded (label : PlacedLabel) : id ∈ (s.graph.setNode id (some label)).nodeIds :=
    Graph.mem_nodeIds_setNode_self s.graph id (some label)
  rw [ensureNode]
  split
  · next hid => exact Graph.hasNode_iff.1 hid
  · cases scope with
    | none => exact hadded _
    | some c =>
      dsimp only
      split
      · exact hadded _
      · split
        · next hparent => exact (Graph.addsNodes_setParent hparent).mem id (hadded _)
        · exact hadded _

theorem addsNodes_mergeIntoScope (scope : Option String) (attrs : Attrs)
    (geometry : Option Geometry) :
    Graph.AddsNodes s.graph (s.mergeIntoScope scope attrs geometry).graph := by
  unfold mergeIntoScope
  split
  · exact ⟨fun _ hx => hx, fun hg => hg⟩
  · next id =>
    split
    · have hsame := Graph.sameNodes_modifyNode s.graph id fun label => label.merge attrs geometry
      exact hsame.addsNodes
    · exact .refl _

theorem addsNodes_connect (stem v w : String) (attrs : Attrs) (points : Option (List Point)) :
    Graph.AddsNodes s.graph (s.connect stem v w attrs points).graph := by
  have hmerged (g : Graph) : Graph.AddsNodes g (g.modifyEdge v w (s.nextEdgeName stem v w).1
      fun label => label.merge attrs points) :=
    (Graph.sameNodes_modifyEdge g v w _ _).addsNodes
  have hgraph : (s.nextEdgeName stem v w).2.graph = s.graph := by
    rw [s.nextEdgeName_snd]
  rw [connect]
  dsimp only
  rw [hgraph]
  split
  · exact hmerged s.graph
  · split
    · next hedge => exact (Graph.addsNodes_setEdge hedge).trans (hmerged _)
    · rw [report, hgraph]
      exact .refl _

/-- What a graph counts stays right when a node is removed with its edges. -/
theorem counted_removeNode (h : s.graph.Counted) (id : String) :
    (s.removeNode id).graph.Counted :=
  (Graph.removeNode_nodes _ id).2
    ((Graph.SameNodes.foldl (fun g (ref : EdgeRef) =>
      Graph.sameNodes_removeEdge g ref.source ref.target ref.name) _ s.graph).counted h)

end State

variable {settings : Settings} {doc : Document} {p : Progress} {action : Action}
  {rest : List Action} {id : String}

/-- Every action but the end of a subgraph adds nodes at most. -/
theorem addsNodes_perform (settings : Settings) (p : Progress) (h : action ≠ .elide) :
    Graph.AddsNodes p.graph (perform settings p action).graph := by
  obtain ⟨s, scopes⟩ := p
  cases action with
  | enter name => cases name <;> exact .refl _
  | addScope =>
    cases scopes with
    | nil => exact .refl _
    | cons id outer => exact s.addsNodes_ensureNode id outer.head?
  | addNode id => exact s.addsNodes_ensureNode id _
  | mergeNode id attrs =>
    have hsame := Graph.sameNodes_modifyNode s.graph id fun label =>
      label.merge attrs (nodeGeometry settings attrs)
    exact hsame.addsNodes
  | attr target attrs =>
    cases target with
    | graph => exact s.addsNodes_mergeIntoScope _ attrs _
    | node => exact .refl _
    | edge => exact .refl _
  | inlineAttr attrs => exact s.addsNodes_mergeIntoScope _ attrs none
  | link v w attrs => exact s.addsNodes_connect _ v w attrs _
  | skipStatement | skipElement | leave => exact .refl _
  | elide => exact absurd rfl h

/-- Every graph that a build goes through counts its nodes right. -/
theorem Reaches.counted (h : Reaches settings doc p rest) : p.graph.Counted := by
  refine h.invariant (P := fun p => p.graph.Counted) rfl fun p action _ hp => ?_
  by_cases helide : action = .elide
  · subst helide
    obtain ⟨s, _ | ⟨id, outer⟩⟩ := p
    · exact hp
    · by_cases hempty : (s.graph.children id).isEmpty = true
      · simp only [perform, if_pos hempty]
        exact s.counted_removeNode hp id
      · simp only [perform, if_neg hempty]
        exact hp
  · exact (addsNodes_perform settings p helide).counted hp

/-- Where no subgraph ends, no node is taken away. -/
theorem mem_nodeIds_performAll (settings : Settings) {actions : List Action}
    (h : .elide ∉ actions) (hid : id ∈ p.graph.nodeIds) :
    id ∈ (performAll settings p actions).graph.nodeIds := by
  induction actions generalizing p with
  | nil => exact hid
  | cons action actions ih =>
    obtain ⟨hfirst, hrest⟩ := not_or.1 (mt List.mem_cons.2 h)
    exact ih hrest ((addsNodes_perform settings p (Ne.symm hfirst)).mem id hid)

end ClusterGraph.Build
