import ClusterGraph.Proofs.Graph.Removal

/-!
# Adding nodes and edges

A build adds to a graph in two ways. Adding nodes, or changing labels, leaves every node where it
lies and every edge as it is (`Graph.Grown`). Linking two nodes puts one edge behind the others,
none of which changes its label (`Graph.EdgeAdded`). Both keep a graph sound.
-/

namespace ClusterGraph.Graph

variable {g g' g'' : Graph} {id c x v w : String} {name : Option String} {ref : EdgeRef}

/-! ### Adding nodes -/

/-- A change that adds nodes at most, up to labels. -/
structure Grown (g g' : Graph) : Prop where
  sound : g'.Sound
  links : SameLinks g g'
  container? : ∀ x ∈ g.nodeIds, g'.container? x = g.container? x

/-- A graph with the same nodes and edges has grown by nothing. -/
theorem Grown.of_same (h : g.Sound) (hnesting : SameNesting g g') (hlinks : SameLinks g g') :
    Grown g g' :=
  ⟨h.congr hnesting hlinks, hlinks, fun x _ => hnesting.container? x⟩

theorem Grown.refl (h : g.Sound) : Grown g g := .of_same h (.refl g) (.refl g)

/-- No node goes away while a graph grows. -/
theorem Grown.mem_nodeIds (h : Grown g g') (hx : x ∈ g.nodeIds) : x ∈ g'.nodeIds := by
  rw [← container?_isSome_iff] at hx ⊢
  rwa [h.container? x (container?_isSome_iff.1 hx)]

/-- Growth goes on from growth. -/
theorem Grown.trans (h : Grown g g') (h' : Grown g' g'') : Grown g g'' where
  sound := h'.sound
  links := h.links.trans h'.links
  container? x hx := (h'.container? x (h.mem_nodeIds hx)).trans (h.container? x hx)

/-- A sound graph grows by a new node with a plain id. -/
theorem Sound.addNode (h : g.Sound) (hid : id ∉ g.nodeIds) (hplain : IsPlain id)
    (label : PlacedLabel) : Grown g (g.addNode id label) := by
  have hlinks := h.nested.sameLinks_addNode hid hplain label
  refine ⟨⟨h.nested.addNode hid hplain label, h.linked.congr hlinks⟩, hlinks, fun x hx => ?_⟩
  have hne : x ≠ id := fun e => hid (e ▸ hx)
  rw [container?_addNode h.nested.compound hplain.ne_rootId (h.nested.not_mem_listed hid rootId),
    if_neg hne]

/-- A sound graph grows by a node that is made sure of, if it is new. -/
theorem Sound.setNode (h : g.Sound) (hplain : IsPlain id) : Grown g (g.setNode id none) := by
  by_cases hid : id ∈ g.nodeIds
  · rw [setNode_none_of_mem hid]
    exact .refl h
  · rw [setNode_none_of_not_mem hid]
    exact h.addNode hid hplain _

/-- A node that has been made sure of is there. -/
theorem mem_nodeIds_setNode (h : g.Sound) (hplain : IsPlain id) :
    id ∈ (g.setNode id none).nodeIds := by
  rw [h.nested.nodeIds_setNode hplain]
  split
  · assumption
  · exact List.mem_append_right _ List.mem_cons_self

section Place

variable (h : g.Sound) (hid : id ∉ g.nodeIds) (hplain : IsPlain id) (label : PlacedLabel)

include h hid hplain

/-- Nothing lies in a new node. -/
theorem container?_addNode_ne (x : String) : (g.addNode id label).container? x ≠ some id := by
  rw [container?_addNode h.nested.compound hplain.ne_rootId (h.nested.not_mem_listed hid rootId)]
  split
  · rw [Ne, Option.some.injEq]
    exact hplain.ne_rootId.symm
  · exact h.nested.container?_ne hid hplain.ne_rootId x

variable (hc : IsPlain c) (hne : c ≠ id)

include hc

/-- A node that has just been added may be put into any other node. -/
theorem setParent_addNode : (g.addNode id label).setParent id (some c) =
    .ok ((g.addNode id label).nest id c) := by
  have hadded := h.addNode hid hplain label
  have hmem : id ∈ (g.addNode id label).nodeIds := by
    rw [h.nested.nodeIds_addNode hid hplain]
    exact List.mem_append_right _ List.mem_cons_self
  exact hadded.sound.nested.setParent_eq_nest hmem (container?_addNode_ne h hid hplain label) hc

include hne

/-- A graph grows by a new node that is put into another one, which may be new as well. -/
theorem grown_nest_addNode : Grown g ((g.addNode id label).nest id c) := by
  have hadded := h.addNode hid hplain label
  have hself : (g.addNode id label).container? id = some rootId := by
    rw [container?_addNode h.nested.compound hplain.ne_rootId (h.nested.not_mem_listed hid rootId),
      if_pos rfl]
  have hnested := hadded.sound.nested
  have hlinks := hnested.sameLinks_nest hself hc hne
  refine ⟨⟨hnested.nest hself hc hne (h.nested.nodeIds_addNode hid hplain label)
    (container?_addNode_ne h hid hplain label), hadded.sound.linked.congr hlinks⟩,
    hadded.links.trans hlinks, fun x hx => ?_⟩
  have hxid : x ≠ id := fun e => hid (e ▸ hx)
  rw [hnested.container?_nest hself hc hne, if_neg hxid, if_neg, hadded.container? x hx]
  rintro ⟨rfl, hx'⟩
  exact hx' (hadded.mem_nodeIds hx)

end Place

/-! ### Adding an edge -/

/-- No edge is added with a node. -/
theorem edges_setNode (g : Graph) (id : String) : (g.setNode id none).edges = g.edges := by
  rw [setNode]
  split
  · rfl
  · dsimp only [addNode, addMember]
    split <;> rfl

/-- A change that puts one edge behind the others. -/
structure EdgeAdded (ref : EdgeRef) (g g' : Graph) : Prop where
  sound : g'.Sound
  directed : g'.directed = g.directed
  multigraph : g'.multigraph = g.multigraph
  container? : ∀ x ∈ g.nodeIds, g'.container? x = g.container? x
  edgeRefs : g'.edgeRefs = g.edgeRefs ++ [ref]
  edge? : ∀ r ∈ g.edgeRefs, g'.edge? r.source r.target r.name = g.edge? r.source r.target r.name

/-- A new edge is accepted, unless it has a name in a graph that holds one edge for each pair of
ends. -/
theorem setEdge_eq (hnew : g.hasEdge v w name = false) (hmulti : name.isSome → g.multigraph = true)
    (label : EdgeLabel) : g.setEdge v w (some label) name =
      .ok (((g.setNode v none).setNode w none).addEdge v w name label) := by
  have hguard : (name.isSome && !g.multigraph) = false := by
    cases name with
    | none => rfl
    | some name => simp [hmulti rfl]
  simp only [setEdge, hnew, hguard, Bool.false_eq_true, if_false, Option.getD_some]

/-- An edge added is not one of those that were there. -/
theorem EdgeAdded.not_mem (h : EdgeAdded ref g g') : ref ∉ g.edgeRefs := by
  intro hmem
  have hnodup := h.sound.linked.edgeRefs_nodup
  rw [h.edgeRefs] at hnodup
  exact (List.nodup_append.1 hnodup).2.2 ref hmem ref List.mem_cons_self rfl

/-- Adding an edge, and then changing its label, leaves the label of every other edge alone. -/
theorem edge?_addEdge (hne : ref.key g.directed ≠ edgeKey g.directed v w name) (label : EdgeLabel)
    (f : EdgeLabel → EdgeLabel) :
    ((g.addEdge v w name label).modifyEdge v w name f).edge? ref.source ref.target ref.name =
      g.edge? ref.source ref.target ref.name := by
  change (((g.edges.insert _ _).modify (edgeKey g.directed v w name) _).get?
    (ref.key g.directed)).map EdgeEntry.label = _
  rw [Table.get?_modify, if_neg hne, Table.get?_insert, if_neg hne]
  rfl

/-- Setting an edge that is not there yet, and then changing its label. -/
theorem Sound.setEdge (h : g.Sound) (hv : IsPlain v) (hw : IsPlain w) (hname : name ≠ some rootId)
    (hnew : g.hasEdge v w name = false) (label : EdgeLabel) (f : EdgeLabel → EdgeLabel) :
    EdgeAdded (EdgeRef.ofEnds g.directed v w name) g
      ((((g.setNode v none).setNode w none).addEdge v w name label).modifyEdge v w name f) := by
  -- in three steps: the ends, then the edge between them, then its label
  have hends := h.setNode hv
  have hgrown := hends.trans (hends.sound.setNode hw)
  set g₁ := (g.setNode v none).setNode w none with hg₁
  have hv₁ : v ∈ g₁.nodeIds := (hends.sound.setNode hw).mem_nodeIds (mem_nodeIds_setNode h hv)
  have hw₁ : w ∈ g₁.nodeIds := mem_nodeIds_setNode hends.sound hw
  have hedges : g₁.edges = g.edges := (edges_setNode _ w).trans (edges_setNode g v)
  have hkey : edgeKey g.directed v w name ∉ g.edges.keys := fun hmem => by
    have : g.hasEdge v w name = true := Table.contains_iff.2 hmem
    rw [hnew] at this
    cases this
  have hdirected := hgrown.links.directed
  have hkey₁ : edgeKey g₁.directed v w name ∉ g₁.edges.keys := by rwa [hdirected, hedges]
  have hstored : (EdgeRef.ofEnds g₁.directed v w name).IsStored g₁.directed :=
    EdgeRef.isStored_ofEnds hv hw hname
  have hlinked := hgrown.sound.linked.addEdge hkey₁ label hv₁ hw₁ hstored
  have hnesting := (sameNesting_addEdge g₁ v w name label).trans
    (sameNesting_modifyEdge (g₁.addEdge v w name label) v w name f)
  have hlinks := sameLinks_modifyEdge (g₁.addEdge v w name label) v w name f
  refine ⟨⟨hgrown.sound.nested.congr hnesting, hlinked.congr hlinks⟩, ?_, ?_, fun x hx => ?_, ?_,
    fun r hr => ?_⟩
  · exact hlinks.directed.trans hdirected
  · exact hlinks.multigraph.trans hgrown.links.multigraph
  · exact (hnesting.container? x).trans (hgrown.container? x hx)
  · rw [hlinks.edgeRefs, edgeRefs_addEdge hkey₁, hgrown.links.edgeRefs, hdirected]
  · -- the key of an edge that was there is not the key of the new one
    have hne : r.key g₁.directed ≠ edgeKey g₁.directed v w name := by
      rw [hdirected]
      exact fun e => hkey (e ▸ (h.linked.mem_keys_iff (h.linked.stored r hr)).2 hr)
    rw [edge?_addEdge hne, edge?, edge?, hedges, hdirected]

end ClusterGraph.Graph
