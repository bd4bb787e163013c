import ClusterGraph.Proofs.Build.Keeping
import ClusterGraph.Proofs.Build.Scoping
import ClusterGraph.Proofs.Label.Overlay

/-!
# The edges of a document

The links that a document asks for can be read off its statements (`Document.links`): a chain links
each element that stands for nodes with the last such element before it, row by row, behind the
links that the element itself holds; and where a link stands fixes the defaults for it. In a build
that is not strict and that keeps its nodes, the edges are these links, one after another and one
for each of them (`Build.build_links`).
-/

namespace ClusterGraph

/-- A link that a document asks for. -/
structure Link where
  source : String
  target : String
  /-- The attributes of the edge statement. -/
  attrs : Attrs
  /-- The defaults that are set where the two nodes are linked. -/
  set : Assignments

/-- The points of an edge, from the attributes of its statement. -/
def Link.points (settings : Settings) (link : Link) : Option (List Point) :=
  if settings.decodeLayout then
    ((link.attrs.get? "pos").filter fun pos => pos ≠ "").map fun pos => Layout.spline pos.toList
  else none

/-- The edge that a link makes, as it is shown in a snapshot but for its name. -/
def Link.edge (settings : Settings) (directed : Bool) (link : Link) : EdgeSnapshot where
  source := (Graph.orderEnds directed link.source link.target).1
  target := (Graph.orderEnds directed link.source link.target).2
  name := none
  attrs := (link.set.overlaid .edge).overlay link.attrs
  points := link.points settings

/-- An edge in a snapshot without its name. -/
def EdgeSnapshot.unnamed (edge : EdgeSnapshot) : EdgeSnapshot := { edge with name := none }

namespace Statement

/-- The links of an element of a chain with the nodes before it, row by row. -/
def crossLinks (set : Assignments) (attrs : Attrs) (prev : List String) (elem : Statement) :
    List Link :=
  prev.flatMap fun v => ((Build.endpoints elem).getD []).map fun w => ⟨v, w, attrs, set⟩

mutual

/-- The links that a statement asks for where given defaults are set, in order. -/
def links (set : Assignments) : Statement → List Link
  | .node _ _ => []
  | .edge elems attrs => linksOfChain set attrs [] elems
  | .subgraph _ stmts => linksOfAll set stmts
  | .attr _ _ => []
  | .inlineAttr _ => []
  | .unknown => []

/-- The links that statements ask for. -/
def linksOfAll (set : Assignments) : List Statement → List Link
  | [] => []
  | stmt :: rest => stmt.links set ++ linksOfAll (set ++ stmt.assignments) rest

/-- The links that the elements of a chain ask for behind given nodes: those in an element itself
come before those with the element before it, for which it may set defaults. -/
def linksOfChain (set : Assignments) (attrs : Attrs) (prev : List String) :
    List Statement → List Link
  | [] => []
  | elem :: rest =>
    elem.links set ++ crossLinks (set ++ elem.assignments) attrs prev elem ++
      linksOfChain (set ++ elem.assignments) attrs (Build.nextEnds prev elem) rest

end

end Statement

/-- The links that a document asks for, in order. -/
def Document.links (doc : Document) : List Link := Statement.linksOfAll [] doc.stmts

/-- What is merged first into the label of an edge is taken as it is. -/
theorem EdgeLabel.merge_ofAttrs (defaults attrs : Attrs) (points : Option (List Point)) :
    (EdgeLabel.ofAttrs defaults).merge attrs points = ⟨defaults.overlay attrs, points⟩ := by
  cases points with
  | none => rfl
  | some new => exact congrArg (EdgeLabel.mk _) (congrArg some (nil_overlayPoints new))

namespace Build

open Statement (crossLinks linksOfAll linksOfChain)

variable {settings : Settings} {doc : Document} {p : Progress} {action : Action}
  {rest : List Action} {set : Assignments}

/-- The points of a link are those that a build decodes. -/
theorem points_eq (settings : Settings) (link : Link) :
    link.points settings = edgePoints settings link.attrs := by
  rw [edgePoints, layoutText_eq, Link.points]
  split
  · rw [Option.map_map]
    rfl
  · rfl

/-! ### Single actions -/

/-- The edges that a build shows, without their names. -/
def Progress.edges (p : Progress) : List EdgeSnapshot :=
  p.sketch.outline.snapshot.edges.map EdgeSnapshot.unnamed

/-- The action that makes a link. -/
def linkAction (link : Link) : Action := .link link.source link.target link.attrs

theorem edges_enter (p : Progress) (id : Option String) :
    (perform settings p (.enter id)).edges = p.edges := by
  cases id <;> rfl

section Runs

variable (hadmissible : Admissible settings doc)

include hadmissible

theorem Reaches.edges_quiet (h : Reaches settings doc p (action :: rest))
    (hquiet : action.isQuiet = true) : (perform settings p action).edges = p.edges := by
  have hedges : (perform settings p action).sketch.outline.edges = p.sketch.outline.edges := by
    rw [h.sketch_next hadmissible]
    exact Sketch.edges_perform hquiet settings
  simp only [Progress.edges, Outline.snapshot, hedges]

/-- In a build that is not strict a link makes an edge of its own, behind all others. -/
theorem Reaches.edges_link (hstrict : doc.strict = false) {link : Link}
    (h : Reaches settings doc p (linkAction link :: rest)) (hset : p.InForce link.set) :
    (perform settings p (linkAction link)).edges =
      p.edges ++ [link.edge settings doc.kind.isDirected] := by
  obtain ⟨v, w, attrs, set⟩ := link
  have h : Reaches settings doc p (.link v w attrs :: rest) := h
  have hnew := h.not_mem_refs_link hadmissible hstrict
  have hdirected : p.sketch.outline.directed = doc.kind.isDirected :=
    (h.sound hadmissible).directed
  have hdefaults : p.sketch.defaults.current.edge = set.overlaid .edge := hset.attrs_eq .edge
  have hedges : (perform settings p (.link v w attrs)).sketch.outline.edges =
      p.sketch.outline.edges ++ [⟨EdgeRef.ofEnds doc.kind.isDirected v w
        ((p.sketch.nextNumber v w).map (numbered settings.edgeNameStem)),
        ⟨(set.overlaid .edge).overlay attrs, edgePoints settings attrs⟩⟩] := by
    rw [h.sketch_next hadmissible, Sketch.perform, Sketch.connect,
      Outline.link_of_not_mem _ _ _ hnew, EdgeLabel.merge_ofAttrs, hdefaults]
    simp only [Outline.addEdge, hdirected]
  simp only [Progress.edges, linkAction, Outline.snapshot, hedges, List.map_append, List.map_cons,
    List.map_nil]
  rw [Link.edge, points_eq]
  rfl

/-! ### Statements -/

/-- Links that are made one after another. -/
theorem Reaches.edges_links (hstrict : doc.strict = false) {links : List Link}
    (h : Reaches settings doc p (links.map linkAction ++ rest))
    (hset : ∀ link ∈ links, p.InForce link.set) :
    (performAll settings p (links.map linkAction)).edges =
      p.edges ++ links.map (Link.edge settings doc.kind.isDirected) := by
  induction links generalizing p with
  | nil => exact (List.append_nil _).symm
  | cons link links ih =>
    have hfirst := Reaches.edges_link hadmissible hstrict h (hset link List.mem_cons_self)
    have hrest := ih (.next h) fun link' hlink' =>
      (hset link' (List.mem_cons_of_mem _ hlink')).link settings _ _ _
    rw [List.map_cons, performAll_cons, hrest, hfirst, List.append_assoc]
    rfl

/-- What comes behind an element of a chain makes the links of the element with those before. -/
theorem Reaches.edges_linkActions (hstrict : doc.strict = false) {attrs : Attrs}
    {prev : List String} {elem : Statement}
    (h : Reaches settings doc p (linkActions attrs prev elem ++ rest)) (hset : p.InForce set) :
    (performAll settings p (linkActions attrs prev elem)).edges =
      p.edges ++ (crossLinks set attrs prev elem).map (Link.edge settings doc.kind.isDirected) := by
  cases hends : endpoints elem with
  | none =>
    -- what stands for no nodes is reported and makes no links
    have hactions : linkActions attrs prev elem = [.skipElement] := by rw [linkActions, hends]
    have hlinks : crossLinks set attrs prev elem = [] := by
      rw [crossLinks, hends, List.flatMap_eq_nil_iff]
      exact fun _ _ => rfl
    rw [hactions] at h ⊢
    rw [hlinks, List.map_nil, List.append_nil, performAll_singleton]
    exact h.edges_quiet hadmissible rfl
  | some curr =>
    -- one link for each pair of the cross product, in its order
    have hactions : linkActions attrs prev elem =
        (crossLinks set attrs prev elem).map linkAction := by
      simp only [linkActions, crossLinks, hends, Option.getD_some, List.map_flatMap, List.map_map]
      rfl
    rw [hactions] at h ⊢
    refine Reaches.edges_links hadmissible hstrict h fun link hlink => ?_
    obtain ⟨v, -, hlink⟩ := List.mem_flatMap.1 hlink
    obtain ⟨w, -, rfl⟩ := List.mem_map.1 hlink
    exact hset

end Runs

/-- A build in which every link makes an edge and no edge goes away. -/
structure KeepsEdges (settings : Settings) (doc : Document) : Prop where
  admissible : Admissible settings doc
  loose : doc.strict = false
  keeps : KeepsNodes settings doc

mutual

/-- Carrying out a statement makes the links that it asks for. -/
theorem edges_actionsOf (hdoc : KeepsEdges settings doc) {p : Progress} {rest : List Action}
    {set : Assignments} : ∀ stmt : Statement,
      Reaches settings doc p (actionsOf stmt ++ rest) → p.InForce set →
      (performAll settings p (actionsOf stmt)).edges =
        p.edges ++ (stmt.links set).map (Link.edge settings doc.kind.isDirected)
  | .node id attrs, h, hset => by
    have hadd := h.edges_quiet hdoc.admissible rfl
    have hmerge := (Reaches.next h).edges_quiet hdoc.admissible rfl
    rw [Statement.links, List.map_nil, List.append_nil, ← hadd]
    exact hmerge
  | .edge elems attrs, h, hset => edges_chainActions hdoc attrs [] elems h hset
  | .subgraph id stmts, h, hset => by
    obtain ⟨hentered, hopened, hleaving, heq⟩ := hdoc.keeps.performAll_subgraph hdoc.admissible h
    have hopen := hentered.edges_quiet hdoc.admissible rfl
    have hbody := edges_actionsOfAll hdoc stmts hopened ((hset.enter settings id).addScope settings)
    have hleave := hleaving.edges_quiet hdoc.admissible rfl
    rw [heq, hleave, hbody, hopen, edges_enter, Statement.links]
  | .attr target attrs, h, hset => by
    rw [actionsOf] at h ⊢
    rw [Statement.links, List.map_nil, List.append_nil, performAll_singleton]
    exact h.edges_quiet hdoc.admissible rfl
  | .inlineAttr attrs, h, hset => by
    rw [actionsOf] at h ⊢
    rw [Statement.links, List.map_nil, List.append_nil, performAll_singleton]
    exact h.edges_quiet hdoc.admissible rfl
  | .unknown, h, hset => by
    rw [actionsOf] at h ⊢
    rw [Statement.links, List.map_nil, List.append_nil, performAll_singleton]
    exact h.edges_quiet hdoc.admissible rfl

theorem edges_actionsOfAll (hdoc : KeepsEdges settings doc) {p : Progress} {rest : List Action}
    {set : Assignments} : ∀ stmts : List Statement,
      Reaches settings doc p (actionsOfAll stmts ++ rest) → p.InForce set →
      (performAll settings p (actionsOfAll stmts)).edges =
        p.edges ++ (linksOfAll set stmts).map (Link.edge settings doc.kind.isDirected)
  | [], h, hset => (List.append_nil _).symm
  | stmt :: stmts, h, hset => by
    rw [actionsOfAll, List.append_assoc] at h
    have hfirst := edges_actionsOf hdoc stmt h hset
    have hrest := edges_actionsOfAll hdoc stmts h.nexts (hset.performAll_actionsOf settings stmt)
    rw [actionsOfAll, performAll_append, hrest, hfirst, linksOfAll, List.map_append,
      List.append_assoc]

theorem edges_chainActions (hdoc : KeepsEdges settings doc) {p : Progress} {rest : List Action}
    {set : Assignments} (attrs : Attrs) (prev : List String) :
    ∀ elems : List Statement, Reaches settings doc p (chainActions attrs prev elems ++ rest) →
      p.InForce set → (performAll settings p (chainActions attrs prev elems)).edges =
        p.edges ++ (linksOfChain set attrs prev elems).map
          (Link.edge settings doc.kind.isDirected)
  | [], h, hset => (List.append_nil _).symm
  | elem :: elems, h, hset => by
    rw [chainActions, List.append_assoc, List.append_assoc] at h
    -- defaults that are set in the element count for its links with the nodes before it
    have hinner := hset.performAll_actionsOf settings elem
    have hbehind := hinner.performAll_linkActions settings attrs prev elem
    have hfirst := edges_actionsOf hdoc elem h hset
    have hlinks := h.nexts.edges_linkActions hdoc.admissible hdoc.loose hinner
    have hrest := edges_chainActions hdoc attrs _ elems h.nexts.nexts hbehind
    rw [chainActions, performAll_append, performAll_append, hrest, hlinks, hfirst, linksOfChain,
      List.map_append, List.map_append]
    simp only [List.append_assoc]

end

/-! ### Whole documents -/

/-- In a build that is not strict and takes no node away, the edges are the links that the document
asks for: one for each of them, in order, with its ends, its attributes on top of the defaults in
force behind its last end, and its points. No two of them are the same edge. -/
theorem build_links (hadmissible : Admissible settings doc) (hstrict : doc.strict = false)
    (hkeeps : KeepsNodes settings doc) :
    (doc.build settings).graph.snapshot.edges.map EdgeSnapshot.unnamed =
      doc.links.map (Link.edge settings doc.kind.isDirected) ∧
    (doc.build settings).graph.edgeRefs.Nodup := by
  have hdoc : KeepsEdges settings doc := ⟨hadmissible, hstrict, hkeeps⟩
  have hedges := edges_actionsOfAll hdoc doc.stmts (.initial_append_nil settings doc) (.initial doc)
  rw [performAll_actionsOfAll] at hedges
  have hsound := (Reaches.build settings doc).sound hadmissible
  refine ⟨?_, hsound.graph.linked.edgeRefs_nodup⟩
  rw [snapshot_build hadmissible]
  exact hedges

/-- A chain over a subgraph that holds a chain of its own, with defaults and an unknown statement
among its elements. -/
def crossedChains : Document where
  kind := .graph
  strict := false
  id := none
  stmts :=
    [.attr .edge (Attrs.ofPairs [("color", "red")]),
      .edge [.node "d" Attrs.empty, .attr .edge (Attrs.ofPairs [("style", "dotted")]),
        .subgraph none [.attr .edge (Attrs.ofPairs [("color", "blue")]),
          .edge [.node "c" Attrs.empty, .node "b" Attrs.empty] Attrs.empty],
        .unknown, .node "a" Attrs.empty] (Attrs.ofPairs [("label", "x")]),
      .edge [.node "a" Attrs.empty, .node "b" Attrs.empty] Attrs.empty]

/-- The chain inside comes first, then the cross products, then one more edge under a name. -/
theorem build_links_crossedChains :
    Admissible Settings.default crossedChains ∧ KeepsNodes Settings.default crossedChains ∧
    crossedChains.links.map (fun link => (link.source, link.target)) =
      [("c", "b"), ("d", "b"), ("d", "c"), ("b", "a"), ("c", "a"), ("a", "b")] ∧
    (crossedChains.build Settings.default).graph.edgeRefs =
      [⟨"b", "c", none⟩, ⟨"b", "d", none⟩, ⟨"c", "d", none⟩, ⟨"a", "b", none⟩, ⟨"a", "c", none⟩,
        ⟨"a", "b", some "edge2"⟩] ∧
    (crossedChains.build Settings.default).graph.snapshot.edges.map EdgeSnapshot.unnamed =
      crossedChains.links.map (Link.edge Settings.default false) ∧
    (crossedChains.build Settings.default).graph.edgeRefs.Nodup := by
  have hadmissible : Admissible Settings.default crossedChains := ⟨by decide, by decide⟩
  have hkeeps : KeepsNodes Settings.default crossedChains :=
    keepsNodes_of_fillsScopes hadmissible (by decide +kernel)
  exact ⟨hadmissible, hkeeps, by decide +kernel, by decide +kernel,
    build_links hadmissible rfl hkeeps⟩

end Build

end ClusterGraph
