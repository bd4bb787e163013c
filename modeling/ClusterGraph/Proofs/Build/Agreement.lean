import ClusterGraph.Proofs.Build.Skeleton
import Mathlib.Data.List.Forall2

/-!
# Builds of one document with different settings

Two builds of a document whose settings agree on the ids of anonymous subgraphs show the same,
position by position, up to placements and the stems of the names of edges (`Build.build_agrees`):
both show one skeleton. With layout decoding switched off there are no placements at all.
-/

namespace ClusterGraph

/-- A node in a snapshot, without its placement. -/
def NodeSnapshot.bare (node : NodeSnapshot) : NodeSnapshot := { node with geometry := none }

/-- An edge in a snapshot, without its points. -/
def EdgeSnapshot.bare (edge : EdgeSnapshot) : EdgeSnapshot := { edge with points := none }

/-- A snapshot without any placement. -/
structure Snapshot.Unplaced (s : Snapshot) : Prop where
  label : s.label.geometry = none
  nodes : ∀ node ∈ s.nodes, node.geometry = none
  edges : ∀ edge ∈ s.edges, edge.points = none

namespace Build

/-- The names of an edge behind two stems: both are missing, or both hold the same number. -/
inductive SameNumber (stem stem' : String) : Option String → Option String → Prop where
  | unnamed : SameNumber stem stem' none none
  | numbered (n : Nat) :
    SameNumber stem stem' (some (numbered stem n)) (some (numbered stem' n))

/-- Two edges differ in their points and in the stems of their names at most. -/
structure EdgesAgree (stem stem' : String) (edge edge' : EdgeSnapshot) : Prop where
  source : edge'.source = edge.source
  target : edge'.target = edge.target
  attrs : edge'.attrs = edge.attrs
  name : SameNumber stem stem' edge.name edge'.name

/-- Two snapshots differ in placements and in the stems of the names of edges at most. -/
structure SnapshotsAgree (stem stem' : String) (s s' : Snapshot) : Prop where
  directed : s'.directed = s.directed
  multigraph : s'.multigraph = s.multigraph
  compound : s'.compound = s.compound
  attrs : s'.label.attrs = s.label.attrs
  /-- Ids, parents, members and attributes of the nodes, in order. -/
  nodes : s'.nodes.map NodeSnapshot.bare = s.nodes.map NodeSnapshot.bare
  edges : List.Forall₂ (EdgesAgree stem stem') s.edges s'.edges

end Build

/-! ### Snapshots without placements -/

namespace Outline

variable (o : Outline)

theorem nodes_snapshot_bare : o.bare.snapshot.nodes = o.snapshot.nodes.map NodeSnapshot.bare := by
  have hmembers : o.bare.nodes.members = o.nodes.members := funext fun id => o.nodes.members_bare id
  simp only [snapshot, hmembers, List.map_map]
  simp only [bare, Rows.bare, List.map_map]
  rfl

theorem edges_snapshot_bare : o.bare.snapshot.edges = o.snapshot.edges.map EdgeSnapshot.bare := by
  simp only [snapshot, bare, List.map_map]
  rfl

/-- The edges in a snapshot when the names have a stem in front of them. -/
theorem edges_snapshot_renamed (stem : String) : (o.renamed stem).snapshot.edges =
    o.snapshot.edges.map fun edge => { edge with name := edge.name.map (stem ++ ·) } := by
  simp only [snapshot, renamed, List.map_map]
  rfl

theorem unplaced_snapshot_bare : o.bare.snapshot.Unplaced := by
  refine ⟨rfl, fun node hnode => ?_, fun edge hedge => ?_⟩
  · rw [nodes_snapshot_bare] at hnode
    obtain ⟨node, -, rfl⟩ := List.mem_map.1 hnode
    rfl
  · rw [edges_snapshot_bare] at hedge
    obtain ⟨edge, -, rfl⟩ := List.mem_map.1 hedge
    rfl

end Outline

/-! ### Two builds -/

namespace Build

variable {settings settings' : Settings} {doc : Document} {o o' skeleton : Outline}
  {stem stem' : String}

/-- Outlines of one skeleton, whose edges have numbers for names, agree. -/
theorem snapshotsAgree_of_bare (h : o.bare = skeleton.renamed stem)
    (h' : o'.bare = skeleton.renamed stem') (hnames : ∀ edge ∈ skeleton.snapshot.edges,
      edge.name = none ∨ ∃ n, edge.name = some (numbered "" n)) :
    SnapshotsAgree stem stem' o.snapshot o'.snapshot := by
  have hnodes : o'.snapshot.nodes.map NodeSnapshot.bare =
      o.snapshot.nodes.map NodeSnapshot.bare := by
    rw [← o.nodes_snapshot_bare, ← o'.nodes_snapshot_bare, h, h']
    rfl
  have hedges : List.Forall₂ (EdgesAgree stem stem') (o.snapshot.edges.map EdgeSnapshot.bare)
      (o'.snapshot.edges.map EdgeSnapshot.bare) := by
    rw [← o.edges_snapshot_bare, ← o'.edges_snapshot_bare, h, h', skeleton.edges_snapshot_renamed,
      skeleton.edges_snapshot_renamed, List.forall₂_map_left_iff, List.forall₂_map_right_iff,
      List.forall₂_same]
    -- both edges come from one edge of the skeleton, so their names hold its number
    intro edge hedge
    refine ⟨rfl, rfl, rfl, ?_⟩
    rcases hnames edge hedge with hname | ⟨n, hname⟩
    · simp only [hname, Option.map_none]
      exact .unnamed
    · simp only [hname, Option.map_some, ← numbered_eq]
      exact .numbered n
  rw [List.forall₂_map_left_iff, List.forall₂_map_right_iff] at hedges
  have hattrs : o'.bare.label.attrs = o.bare.label.attrs := by
    rw [h, h']
    rfl
  refine ⟨?_, ?_, rfl, hattrs, hnodes, ?_⟩
  · exact (congrArg Outline.directed h').trans (congrArg Outline.directed h).symm
  · exact (congrArg Outline.multigraph h').trans (congrArg Outline.multigraph h).symm
  · exact hedges.imp fun edge edge' hagree =>
      ⟨hagree.source, hagree.target, hagree.attrs, hagree.name⟩

/-- In the skeleton of a build the names of edges are numbers. -/
theorem name_skeleton_cases (hadmissible : Admissible settings doc) :
    let skeleton := Sketch.final (.skeleton settings.subgraphIdStem) doc
    ∀ edge ∈ skeleton.outline.snapshot.edges,
      edge.name = none ∨ ∃ n, edge.name = some (numbered "" n) := by
  intro skeleton edge hedge
  have hskeleton : Admissible (.skeleton settings.subgraphIdStem) doc :=
    ⟨hadmissible.written, hadmissible.stem⟩
  have hreach := Reaches.build (.skeleton settings.subgraphIdStem) doc
  obtain ⟨-, houtline⟩ := sketch_build hskeleton
  obtain ⟨entry, hentry, rfl⟩ := List.mem_map.1 hedge
  have href : entry.ref ∈ skeleton.outline.refs := List.mem_map_of_mem hentry
  rw [← houtline, Graph.refs_outline] at href
  exact hreach.name_cases hskeleton href

/-- Two builds of a document whose settings agree on the ids of anonymous subgraphs report the same,
and what they show differs in placements and in the stems of the names of edges at most. Without
layout decoding nothing has a placement. -/
theorem build_agrees (hadmissible : Admissible settings doc)
    (hstem : settings'.subgraphIdStem = settings.subgraphIdStem) :
    (doc.build settings').diagnostics = (doc.build settings).diagnostics ∧
    SnapshotsAgree settings.edgeNameStem settings'.edgeNameStem
      (doc.build settings).graph.snapshot (doc.build settings').graph.snapshot ∧
    (settings.decodeLayout = false → (doc.build settings).graph.snapshot.Unplaced) := by
  have hadmissible' : Admissible settings' doc :=
    ⟨hadmissible.written, hstem ▸ hadmissible.stem⟩
  obtain ⟨hdiagnostics, houtline⟩ := sketch_build hadmissible
  obtain ⟨hdiagnostics', houtline'⟩ := sketch_build hadmissible'
  have hshows : (Sketch.final settings doc).bare = _ := Sketch.shows_final settings doc
  have hshows' : (Sketch.final settings' doc).bare = _ := Sketch.shows_final settings' doc
  rw [hstem] at hshows'
  rw [hdiagnostics, hdiagnostics', snapshot_build hadmissible, snapshot_build hadmissible',
    houtline, houtline']
  refine ⟨?_, ?_, fun hdecode => ?_⟩
  · exact (congrArg Sketch.diagnostics hshows').trans (congrArg Sketch.diagnostics hshows).symm
  · exact snapshotsAgree_of_bare (congrArg Sketch.outline hshows)
      (congrArg Sketch.outline hshows') (name_skeleton_cases hadmissible)
  · have hbare : (Sketch.final settings doc).outline.bare = (Sketch.final settings doc).outline :=
      congrArg Sketch.outline (Sketch.bare_final hdecode doc)
    rw [← hbare]
    exact Outline.unplaced_snapshot_bare _

/-- Two nodes with positions are linked twice, and in between an anonymous subgraph without members
takes a number of its own. -/
def laidOutPair : Document where
  kind := .graph
  strict := false
  id := none
  stmts :=
    [.edge [.node "a" (Attrs.ofPairs [("pos", "1,2")]), .node "b" Attrs.empty]
        (Attrs.ofPairs [("pos", "1,2 3,4")]),
      .subgraph none [],
      .edge [.node "b" Attrs.empty, .node "a" Attrs.empty] Attrs.empty,
      .subgraph none [.node "c" Attrs.empty]]

/-- Under the other settings the second edge has another name, and no node is placed. -/
theorem build_agrees_laidOutPair :
    let plain : Settings := { Settings.default with decodeLayout := false, edgeNameStem := "e" }
    Admissible plain laidOutPair ∧
    (laidOutPair.build Settings.default).graph.edgeRefs =
      [⟨"a", "b", none⟩, ⟨"a", "b", some "edge2"⟩] ∧
    (laidOutPair.build plain).graph.edgeRefs =
      [⟨"a", "b", none⟩, ⟨"a", "b", some "e2"⟩] ∧
    (laidOutPair.build Settings.default).graph.snapshot.nodes.map (·.geometry.isSome) =
      [true, false, false, false] ∧
    (laidOutPair.build Settings.default).diagnostics = (laidOutPair.build plain).diagnostics ∧
    SnapshotsAgree "e" "edge" (laidOutPair.build plain).graph.snapshot
      (laidOutPair.build Settings.default).graph.snapshot ∧
    (laidOutPair.build plain).graph.snapshot.Unplaced := by
  intro plain
  have hadmissible : Admissible plain laidOutPair := ⟨by decide, by decide⟩
  have hstem : Settings.default.subgraphIdStem = plain.subgraphIdStem := rfl
  obtain ⟨hdiagnostics, hagree, hunplaced⟩ := build_agrees hadmissible hstem
  exact ⟨hadmissible, by decide +kernel, by decide +kernel, by decide +kernel, hdiagnostics, hagree,
    hunplaced rfl⟩

end Build

end ClusterGraph
