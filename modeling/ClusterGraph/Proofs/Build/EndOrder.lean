import ClusterGraph.Proofs.Build.Scoping
import ClusterGraph.Proofs.Build.Sketch

/-!
# The order of the ends of an edge

In an undirected graph it does not matter in which order the two ends of an edge are given. A graph
files an edge by its ends as they are given and takes it off the files by its ends in order, so two
builds that differ in one such order hold different files from then on. Their sketches are the same
(`Build.Sketch.performAll_pair_comm`), and what a build shows is a function of its sketch, so no
later removal or parallel edge makes the difference visible (`Build.build_swapEnds`).
-/

namespace ClusterGraph

/-! ### Ends that are given the other way round -/

theorem Graph.orderEnds_comm (v w : String) : orderEnds false v w = orderEnds false w v := by
  by_cases hvw : v < w
  · have hwv : ¬ w < v := fun h => String.lt_irrefl _ (String.lt_trans hvw h)
    simp [orderEnds, hvw, hwv]
  · by_cases heq : v = w
    · rw [heq]
    · have hwv : w < v := Attrs.lt_of_not_lt_of_ne hvw heq
      simp [orderEnds, hvw, hwv]

theorem EdgeRef.ofEnds_comm (v w : String) (name : Option String) :
    ofEnds false v w name = ofEnds false w v name := by
  rw [ofEnds, Graph.orderEnds_comm, ofEnds]

/-- Labels of different nodes can be changed in any order. -/
theorem Rows.relabel_comm {v w : String} (hne : v ≠ w) (rows : Rows)
    (f f' : PlacedLabel → PlacedLabel) :
    (rows.relabel v f).relabel w f' = (rows.relabel w f').relabel v f := by
  simp only [relabel, List.map_map]
  refine List.map_congr_left fun row _ => ?_
  by_cases hv : row.id = v
  · have hw : row.id ≠ w := fun hw => hne (hv.symm.trans hw)
    simp only [Function.comp_apply, NodeRow.relabel, hv, if_neg hne, if_true]
  · by_cases hw : row.id = w
    · simp only [Function.comp_apply, NodeRow.relabel, hw, if_neg hne.symm, if_true]
    · simp only [Function.comp_apply, NodeRow.relabel, hv, hw, if_false]

theorem Outline.relabel_comm {v w : String} (hne : v ≠ w) (o : Outline)
    (f f' : PlacedLabel → PlacedLabel) :
    (o.relabel (some v) f).relabel (some w) f' = (o.relabel (some w) f').relabel (some v) f :=
  Outline.ext rfl rfl rfl (Rows.relabel_comm hne o.nodes f f') rfl

/-- In an undirected graph two nodes that are there are linked in either order. -/
theorem Outline.link_comm {o : Outline} {v w : String} (hdirected : o.directed = false)
    (hv : v ∈ o.nodes.ids) (hw : w ∈ o.nodes.ids) (name : Option String) (label : EdgeLabel)
    (f : EdgeLabel → EdgeLabel) : o.link v w name label f = o.link w v name label f := by
  have hends : EdgeRef.ofEnds o.directed v w name = EdgeRef.ofEnds o.directed w v name := by
    rw [hdirected]
    exact EdgeRef.ofEnds_comm v w name
  have hadd : o.addEdge v w name (f label) = o.addEdge w v name (f label) := by
    simp only [addEdge, Rows.supply_of_mem hv, Rows.supply_of_mem hw, hends]
  simp only [link, hends, hadd]

namespace Build

/-- A statement that links two nodes. -/
def pair (v : String) (attrsV : Attrs) (w : String) (attrsW : Attrs) (attrs : Attrs) : Statement :=
  .edge [.node v attrsV, .node w attrsW] attrs

/-- Both nodes are mentioned and written on before they are linked. -/
theorem actionsOf_pair (v w : String) (attrsV attrsW attrs : Attrs) :
    actionsOf (pair v attrsV w attrsW attrs) =
      actionsOf (.node v attrsV) ++ actionsOf (.node w attrsW) ++ [.link v w attrs] := rfl

theorem mem_writtenIds_pair {id v w : String} {attrsV attrsW attrs : Attrs} :
    id ∈ (pair v attrsV w attrsW attrs).writtenIds ↔ id = v ∨ id = w := by
  simp [pair, Statement.writtenIds, Statement.writtenIdsOfAll]

namespace Sketch

variable {k : Sketch} {v w : String}

theorem connect_comm (hdirected : k.outline.directed = false) (hv : v ∈ k.outline.nodes.ids)
    (hw : w ∈ k.outline.nodes.ids) (stem : String) (attrs : Attrs) (points : Option (List Point)) :
    k.connect stem v w attrs points = k.connect stem w v attrs points := by
  have hnumber : k.nextNumber v w = k.nextNumber w v := by
    rw [nextNumber, nextNumber, hdirected, EdgeRef.ofEnds_comm]
  rw [connect, connect, hnumber, Outline.link_comm hdirected hv hw]

/-- A sketch in which a node statement has been written on a node that is there. -/
def mergeNode (k : Sketch) (settings : Settings) (id : String) (attrs : Attrs) : Sketch :=
  { k with
    outline := k.outline.relabel (some id) fun label =>
      label.merge attrs (nodeGeometry settings attrs) }

theorem ids_mergeNode (k : Sketch) (settings : Settings) (id : String) (attrs : Attrs) :
    (k.mergeNode settings id attrs).outline.nodes.ids = k.outline.nodes.ids :=
  Rows.ids_relabel _

theorem mergeNode_comm (hne : v ≠ w) (k : Sketch) (settings : Settings) (attrsV attrsW : Attrs) :
    (k.mergeNode settings v attrsV).mergeNode settings w attrsW =
      (k.mergeNode settings w attrsW).mergeNode settings v attrsV :=
  congrArg (fun o : Outline => { k with outline := o }) (Outline.relabel_comm hne k.outline _ _)

/-- A statement about a node that is there writes on it. -/
theorem performAll_node (hv : v ∈ k.outline.nodes.ids) (settings : Settings) (attrs : Attrs) :
    k.performAll settings (actionsOf (.node v attrs)) = k.mergeNode settings v attrs :=
  congrArg (fun k : Sketch => k.mergeNode settings v attrs) (ensureNode_of_mem hv k.scope)

theorem performAll_link (k : Sketch) (settings : Settings) (v w : String) (attrs : Attrs) :
    k.performAll settings [.link v w attrs] =
      k.connect settings.edgeNameStem v w attrs (edgePoints settings attrs) := rfl

/-- In an undirected graph a statement that links two nodes which are there does the same with its
ends in the other order. -/
theorem performAll_pair_comm (hdirected : k.outline.directed = false) (hne : v ≠ w)
    (hv : v ∈ k.outline.nodes.ids) (hw : w ∈ k.outline.nodes.ids) (settings : Settings)
    (attrsV attrsW attrs : Attrs) :
    k.performAll settings (actionsOf (pair v attrsV w attrsW attrs)) =
      k.performAll settings (actionsOf (pair w attrsW v attrsV attrs)) := by
  have hw₁ : w ∈ (k.mergeNode settings v attrsV).outline.nodes.ids :=
    (k.ids_mergeNode settings v attrsV).symm ▸ hw
  have hv₁ : v ∈ (k.mergeNode settings w attrsW).outline.nodes.ids :=
    (k.ids_mergeNode settings w attrsW).symm ▸ hv
  have hmerged : (k.mergeNode settings v attrsV).mergeNode settings w attrsW =
      (k.mergeNode settings w attrsW).mergeNode settings v attrsV :=
    mergeNode_comm hne k settings attrsV attrsW
  have hv₂ : v ∈ ((k.mergeNode settings v attrsV).mergeNode settings w attrsW).outline.nodes.ids :=
    hmerged ▸ (ids_mergeNode _ settings v attrsV).symm ▸ hv₁
  have hw₂ : w ∈ ((k.mergeNode settings v attrsV).mergeNode settings w attrsW).outline.nodes.ids :=
    (ids_mergeNode _ settings w attrsW).symm ▸ hw₁
  rw [actionsOf_pair, actionsOf_pair, performAll_append, performAll_append, performAll_append,
    performAll_append, performAll_node hv, performAll_node hw₁, performAll_node hw,
    performAll_node hv₁, ← hmerged, performAll_link, performAll_link]
  have hdirected₂ : ((k.mergeNode settings v attrsV).mergeNode settings w attrsW).outline.directed =
      false := hdirected
  exact connect_comm hdirected₂ hv₂ hw₂ _ attrs _

end Sketch

/-! ### Whole builds -/

section Builds

variable {settings : Settings} {doc : Document} {before after : List Statement}
  {v w : String} {attrsV attrsW attrs : Attrs}

/-- The sketch of a build behind its first statements. -/
theorem sketch_statements (hadmissible : Admissible settings doc)
    (hstmts : doc.stmts = before ++ after) :
    (statements settings none (start doc) before).sketch [] =
      (Sketch.initial doc).performAll settings (actionsOfAll before) := by
  have hinitial : Reaches settings doc (Progress.initial doc)
      (actionsOfAll before ++ actionsOfAll after) := by
    rw [← actionsOfAll_append, ← hstmts]
    exact .initial
  have hsketch := hinitial.sketch_performAll hadmissible
  rw [performAll_actionsOfAll] at hsketch
  exact hsketch

/-- The two ends of a statement can be written in either order as far as ids are concerned. -/
theorem Admissible.swapEnds (h : Admissible settings doc)
    (hstmts : doc.stmts = before ++ pair v attrsV w attrsW attrs :: after) :
    Admissible settings { doc with stmts := before ++ pair w attrsW v attrsV attrs :: after } := by
  refine ⟨fun id hid => h.written id ?_, h.stem⟩
  rw [Document.writtenIds, Statement.mem_writtenIdsOfAll_iff] at hid ⊢
  obtain ⟨stmt, hstmt, hid⟩ := hid
  rw [hstmts]
  rcases List.mem_append.1 hstmt with hstmt | hstmt
  · exact ⟨stmt, List.mem_append_left _ hstmt, hid⟩
  rcases List.mem_cons.1 hstmt with rfl | hstmt
  · exact ⟨_, List.mem_append_right _ List.mem_cons_self,
      mem_writtenIds_pair.2 (mem_writtenIds_pair.1 hid).symm⟩
  · exact ⟨stmt, List.mem_append_right _ (List.mem_cons_of_mem _ hstmt), hid⟩

/-- In an undirected document, a statement that links two different nodes which are there can be
written with its ends in the other order: the build shows the same graph and reports the same. -/
theorem build_swapEnds (hadmissible : Admissible settings doc) (hkind : doc.kind = .graph)
    (hstmts : doc.stmts = before ++ pair v attrsV w attrsW attrs :: after) (hne : v ≠ w)
    (hv : v ∈ (statements settings none (start doc) before).graph.nodeIds)
    (hw : w ∈ (statements settings none (start doc) before).graph.nodeIds) :
    let swapped := { doc with stmts := before ++ pair w attrsW v attrsV attrs :: after }
    (swapped.build settings).graph.snapshot = (doc.build settings).graph.snapshot ∧
      (swapped.build settings).diagnostics = (doc.build settings).diagnostics := by
  intro swapped
  have hadmissible' : Admissible settings swapped := hadmissible.swapEnds hstmts
  have hstands : StandsAt doc (.top before) (pair v attrsV w attrsW attrs) := .top hstmts
  obtain ⟨rest, hreach⟩ : ∃ rest, Reaches settings doc _ (_ ++ rest) := hstands.reaches
  have hdirected : (statements settings none (start doc) before).graph.directed =
      doc.kind.isDirected := (hreach.sound hadmissible).directed
  rw [hkind] at hdirected
  -- behind the first statements both builds are at the same point
  have hsketch := sketch_statements hadmissible hstmts
  have hids := (statements settings none (start doc) before).graph.ids_outline
  have hpair := Sketch.performAll_pair_comm
    (k := (statements settings none (start doc) before).sketch []) hdirected hne
    (hids.symm ▸ hv) (hids.symm ▸ hw) settings attrsV attrsW attrs
  have hfinal : Sketch.final settings swapped = Sketch.final settings doc := by
    have hinitial : Sketch.initial swapped = Sketch.initial doc := rfl
    rw [Sketch.final, Sketch.final, hinitial, hstmts]
    simp only [swapped, actionsOfAll_append, actionsOfAll, Sketch.performAll_append, ← hsketch,
      hpair]
  obtain ⟨hdiagnostics, houtline⟩ := sketch_build hadmissible
  obtain ⟨hdiagnostics', houtline'⟩ := sketch_build hadmissible'
  refine ⟨?_, ?_⟩
  · rw [snapshot_build hadmissible, snapshot_build hadmissible', houtline, houtline', hfinal]
  · rw [hdiagnostics, hdiagnostics', hfinal]

/-- Two nodes are linked from the greater to the smaller one and back; one of them goes away as an
empty subgraph, and comes back to be linked once more. -/
def linkedBackwards : Document where
  kind := .graph
  strict := false
  id := none
  stmts :=
    [.node "a" Attrs.empty, .node "b" Attrs.empty,
      pair "b" (Attrs.ofPairs [("shape", "box")]) "a" Attrs.empty (Attrs.ofPairs [("label", "x")]),
      pair "a" Attrs.empty "b" Attrs.empty Attrs.empty, .subgraph (some "b") [],
      pair "a" Attrs.empty "b" Attrs.empty Attrs.empty]

/-- The same document with the ends of its first link in the other order. -/
def linkedForwards : Document :=
  { linkedBackwards with
    stmts := linkedBackwards.stmts.take 2 ++ pair "a" Attrs.empty "b"
      (Attrs.ofPairs [("shape", "box")]) (Attrs.ofPairs [("label", "x")]) ::
        linkedBackwards.stmts.drop 3 }

/-- The files of the two builds differ, and nothing that they show does. -/
theorem build_swapEnds_linkedBackwards :
    Admissible Settings.default linkedBackwards ∧
    (linkedBackwards.build Settings.default).graph.nodeEdges? "a" none ≠
      (linkedForwards.build Settings.default).graph.nodeEdges? "a" none ∧
    (linkedBackwards.build Settings.default).graph.edgeRefs = [⟨"a", "b", none⟩] ∧
    (linkedForwards.build Settings.default).graph.snapshot =
      (linkedBackwards.build Settings.default).graph.snapshot ∧
    (linkedForwards.build Settings.default).diagnostics =
      (linkedBackwards.build Settings.default).diagnostics := by
  have hadmissible : Admissible Settings.default linkedBackwards := ⟨by decide, by decide⟩
  have hstmts : linkedBackwards.stmts = linkedBackwards.stmts.take 2 ++
      pair "b" (Attrs.ofPairs [("shape", "box")]) "a" Attrs.empty
        (Attrs.ofPairs [("label", "x")]) :: linkedBackwards.stmts.drop 3 := rfl
  refine ⟨hadmissible, by decide +kernel, by decide +kernel, ?_⟩
  exact build_swapEnds hadmissible rfl hstmts (by decide) (by decide +kernel) (by decide +kernel)

end Builds

end Build

end ClusterGraph
