import ClusterGraph.Proofs.Graph.Outline
import ClusterGraph.Proofs.Label.Overlay

/-!
# Patches

A **patch** is what one statement merges into one label of a graph: that of a node, of an edge, or
of the graph itself. An outline **absorbs** patches when applying them in turn changes nothing. When
another patch is applied, it absorbs this one as well (`Outline.Absorbs.patch`), since of what is
merged twice the second time counts. It goes on to absorb its patches when something is changed that
none of them concerns (`Outline.Absorbs.of_commutes`).

Patches leave the **frame** of an outline alone, the nodes with their parents, and the edges. While
nodes and edges are added and labels change, an outline goes on to bear the patches that concern
what has been there (`Outline.Bears`).
-/

namespace ClusterGraph

/-! ### Frames -/

namespace Rows

/-- The nodes with their parents. -/
def frame (rows : Rows) : List (String × Option String) := rows.map fun row => (row.id, row.parent)

/-- The frame lists the ids of the rows in their order. -/
theorem map_fst_frame (rows : Rows) : rows.frame.map Prod.fst = rows.ids := by
  simp only [frame, ids, List.map_map]
  rfl

/-- Who is a member of whom can be told from the frame. -/
theorem mem_members_iff {rows : Rows} {id p : String} :
    id ∈ rows.members p ↔ (id, some p) ∈ rows.frame := by
  simp only [members, frame, List.mem_map, List.mem_filter, decide_eq_true_eq, Prod.mk.injEq]
  constructor
  · rintro ⟨row, ⟨hrow, hparent⟩, rfl⟩
    exact ⟨row, hrow, rfl, hparent⟩
  · rintro ⟨row, hrow, rfl, hparent⟩
    exact ⟨row, ⟨hrow, hparent⟩, rfl⟩

/-- A node with members keeps some when the frame only grows. -/
theorem members_ne_nil {rows rows' : Rows} (h : rows.frame ⊆ rows'.frame) {p : String}
    (hp : rows.members p ≠ []) : rows'.members p ≠ [] := by
  obtain ⟨id, hid⟩ := List.exists_mem_of_ne_nil _ hp
  exact List.ne_nil_of_mem (mem_members_iff.2 (h (mem_members_iff.1 hid)))

/-- Rows that stand behind others stand behind them in the frame. -/
theorem frame_append (rows rows' : Rows) : frame (rows ++ rows') = rows.frame ++ rows'.frame :=
  List.map_append

/-- The frame holds no labels. -/
theorem frame_relabel (rows : Rows) (id : String) (f : PlacedLabel → PlacedLabel) :
    (rows.relabel id f).frame = rows.frame := by
  simp only [frame, relabel, List.map_map]
  refine List.map_congr_left fun row _ => ?_
  simp only [Function.comp_apply, NodeRow.relabel]
  split <;> rfl

/-- The frame loses the entry of a node that is taken out, and nothing else. -/
theorem frame_remove (rows : Rows) (id : String) :
    (rows.remove id).frame = rows.frame.filter fun entry => entry.1 ≠ id := by
  simp only [frame, remove, List.filter_map]
  rfl

/-- A node that has been taken out is gone. -/
theorem not_mem_ids_remove (rows : Rows) (id : String) : id ∉ (rows.remove id).ids := by
  rw [← map_fst_frame, frame_remove]
  simp

end Rows

/-- In a sound graph, what a node lies in is there. -/
theorem Graph.Sound.mem_ids_of_mem_frame {g : Graph} (h : g.Sound)
    {entry : String × Option String} (hentry : entry ∈ g.outline.nodes.frame) {c : String}
    (hc : c ∈ entry.2) : c ∈ g.outline.nodes.ids := by
  obtain ⟨row, hrow, rfl⟩ := List.mem_map.1 hentry
  have hparent : g.parent? row.id = some c := (parent?_of_mem h.nested.compound hrow).trans hc
  obtain ⟨hcontainer, hne⟩ := (parent?_eq_some_iff h.nested.compound).1 hparent
  exact g.ids_outline ▸ (h.nested.eq_rootId_or_mem hcontainer).resolve_left hne

/-! ### Patches of labels -/

/-- What is merged into one label. -/
inductive Patch where
  /-- Into the label of a node, or of the graph itself. -/
  | onto (scope : Option String) (attrs : Attrs) (geometry : Option Geometry)
  /-- Into the label of an edge. -/
  | edge (ref : EdgeRef) (attrs : Attrs) (points : Option (List Point))

namespace Patch

/-- A patch concerns the label of a node, or of the graph itself. -/
def IsOnto (scope : Option String) : Patch → Prop
  | onto target _ _ => target = scope
  | edge _ _ _ => False

/-- A patch concerns the label of an edge. -/
def IsOn (ref : EdgeRef) : Patch → Prop
  | onto _ _ _ => False
  | edge target _ _ => target = ref

/-- What a patch makes of the label of a node, or of the graph itself. -/
def placed (scope : Option String) (label : PlacedLabel) : Patch → PlacedLabel
  | onto target attrs geometry => if target = scope then label.merge attrs geometry else label
  | edge _ _ _ => label

/-- What a patch makes of the label of an edge. -/
def linked (ref : EdgeRef) (label : EdgeLabel) : Patch → EdgeLabel
  | onto _ _ _ => label
  | edge target attrs points => if target = ref then label.merge attrs points else label

/-- A patch for another label leaves this one as it is. -/
theorem placed_of_not {x : Patch} {scope : Option String} (h : ¬ x.IsOnto scope)
    (label : PlacedLabel) : x.placed scope label = label := by
  cases x with
  | onto target attrs geometry => exact if_neg h
  | edge ref attrs points => rfl

/-- A patch for another edge leaves this one as it is. -/
theorem linked_of_not {x : Patch} {ref : EdgeRef} (h : ¬ x.IsOn ref) (label : EdgeLabel) :
    x.linked ref label = label := by
  cases x with
  | onto target attrs geometry => rfl
  | edge target attrs points => exact if_neg h

/-- Of a patch that is applied twice the second time counts. -/
theorem placed_placed_placed (x y : Patch) (scope : Option String) (label : PlacedLabel) :
    x.placed scope (y.placed scope (x.placed scope label)) =
      x.placed scope (y.placed scope label) := by
  cases x with
  | edge ref attrs points => rfl
  | onto target attrs geometry =>
    by_cases hx : target = scope
    · have htwice := label.merge_merge_self attrs geometry
      cases y with
      | edge ref' attrs' points' => simpa only [placed, if_pos hx] using htwice
      | onto target' attrs' geometry' =>
        have hthrice := label.merge_merge_merge attrs attrs' geometry geometry'
        by_cases hy : target' = scope
        · simpa only [placed, if_pos hx, if_pos hy] using hthrice
        · simpa only [placed, if_pos hx, if_neg hy] using htwice
    · simp only [placed, if_neg hx]

/-- Of a patch that is applied twice the second time counts. -/
theorem linked_linked_linked (x y : Patch) (ref : EdgeRef) (label : EdgeLabel) :
    x.linked ref (y.linked ref (x.linked ref label)) = x.linked ref (y.linked ref label) := by
  cases x with
  | onto target attrs geometry => rfl
  | edge target attrs points =>
    by_cases hx : target = ref
    · have htwice := label.merge_merge_self attrs points
      cases y with
      | onto target' attrs' geometry' => simpa only [linked, if_pos hx] using htwice
      | edge target' attrs' points' =>
        have hthrice := label.merge_merge_merge attrs attrs' points points'
        by_cases hy : target' = ref
        · simpa only [linked, if_pos hx, if_pos hy] using hthrice
        · simpa only [linked, if_pos hx, if_neg hy] using htwice
    · simp only [linked, if_neg hx]

end Patch

/-! ### Patches of outlines -/

/-- Applies a patch to a node. -/
def NodeRow.patch (x : Patch) (row : NodeRow) : NodeRow :=
  { row with label := x.placed (some row.id) row.label }

/-- Applies a patch to an edge. -/
def EdgeEntry.patch (x : Patch) (edge : EdgeEntry) : EdgeEntry :=
  { edge with label := x.linked edge.ref edge.label }

namespace Outline

/-- Applies a patch. -/
def patch (o : Outline) (x : Patch) : Outline :=
  { o with
    label := x.placed none o.label
    nodes := o.nodes.map (NodeRow.patch x)
    edges := o.edges.map (EdgeEntry.patch x) }

/-- Applies patches in turn. -/
def patchAll (o : Outline) (patches : List Patch) : Outline := patches.foldl patch o

variable {o : Outline} {x y : Patch} {patches : List Patch} {scope : Option String}

/-- Patches can be applied in two parts. -/
theorem patchAll_append (o : Outline) (xs ys : List Patch) :
    o.patchAll (xs ++ ys) = (o.patchAll xs).patchAll ys :=
  List.foldl_append

/-- Merging into the label of a node, or of the graph itself. -/
theorem patch_onto (o : Outline) (scope : Option String) (attrs : Attrs)
    (geometry : Option Geometry) : o.patch (.onto scope attrs geometry) =
      o.relabel scope fun label => label.merge attrs geometry := by
  have hedges : o.edges.map (EdgeEntry.patch (.onto scope attrs geometry)) = o.edges :=
    List.map_id _
  cases scope with
  | none =>
    have hnodes : o.nodes.map (NodeRow.patch (.onto none attrs geometry)) = o.nodes :=
      List.map_id _
    exact Outline.ext rfl rfl rfl hnodes hedges
  | some id =>
    refine Outline.ext rfl rfl rfl (List.map_congr_left fun row _ => ?_) hedges
    simp only [NodeRow.patch, Patch.placed, NodeRow.relabel, Option.some.injEq, eq_comm]
    split <;> rfl

/-- Merging into the label of an edge. -/
theorem patch_edge (o : Outline) (ref : EdgeRef) (attrs : Attrs) (points : Option (List Point)) :
    o.patch (.edge ref attrs points) =
      o.relabelEdge ref fun label => label.merge attrs points := by
  have hnodes : o.nodes.map (NodeRow.patch (.edge ref attrs points)) = o.nodes := List.map_id _
  refine Outline.ext rfl rfl rfl hnodes (List.map_congr_left fun edge _ => ?_)
  simp only [EdgeEntry.patch, Patch.linked, EdgeEntry.relabel, eq_comm]
  split <;> rfl

/-- Of a patch that is applied twice the second time counts. -/
theorem patch_patch_patch (o : Outline) (x y : Patch) :
    ((o.patch x).patch y).patch x = (o.patch y).patch x := by
  refine Outline.ext rfl rfl (x.placed_placed_placed y none o.label) ?_ ?_
  · simp only [patch, List.map_map]
    refine List.map_congr_left fun row _ => ?_
    simp only [Function.comp_apply, NodeRow.patch, x.placed_placed_placed y]
  · simp only [patch, List.map_map]
    refine List.map_congr_left fun edge _ => ?_
    simp only [Function.comp_apply, EdgeEntry.patch, x.linked_linked_linked y]

/-- A patch that is applied twice in a row counts once. -/
theorem patch_patch (o : Outline) (x : Patch) : (o.patch x).patch x = o.patch x := by
  -- between the two a patch may be thought that merges nothing
  have hnothing (o : Outline) : o.patch (.onto none Attrs.empty none) = o := o.patch_onto none _ _
  have htwice := o.patch_patch_patch x (.onto none Attrs.empty none)
  rwa [hnothing, hnothing] at htwice

/-- A patch that is applied again later makes the first time needless, whatever comes between. -/
theorem patchAll_patch (o : Outline) (x : Patch) (patches : List Patch) :
    ((o.patch x).patchAll patches).patch x = (o.patchAll patches).patch x := by
  induction patches generalizing o with
  | nil => exact o.patch_patch x
  | cons y patches ih =>
    -- the patch may be applied behind the first of the others as well
    have hfirst := ih ((o.patch x).patch y)
    rw [o.patch_patch_patch x y, ih (o.patch y)] at hfirst
    exact hfirst.symm

/-! ### Absorbed patches -/

/-- Applying the patches changes nothing. -/
def Absorbs (o : Outline) (patches : List Patch) : Prop := o.patchAll patches = o

/-- A patch that has just been applied is absorbed, and the earlier ones still are. -/
theorem Absorbs.patch (h : o.Absorbs patches) (x : Patch) :
    (o.patch x).Absorbs (patches ++ [x]) := by
  rw [Absorbs, patchAll_append]
  exact (o.patchAll_patch x patches).trans (congrArg (Outline.patch · x) h)

/-- A change that may be made before or behind each of the patches leaves them absorbed. -/
theorem Absorbs.of_commutes (h : o.Absorbs patches) (change : Outline → Outline)
    (hchange : ∀ x ∈ patches, ∀ o : Outline, (change o).patch x = change (o.patch x)) :
    (change o).Absorbs patches := by
  have hall : (change o).patchAll patches = change (o.patchAll patches) := by
    clear h
    induction patches generalizing o with
    | nil => rfl
    | cons x patches ih =>
      have hrest := ih (o := o.patch x) fun y hy => hchange y (List.mem_cons_of_mem _ hy)
      exact (congrArg (·.patchAll patches) (hchange x List.mem_cons_self o)).trans hrest
  exact hall.trans (congrArg change h)

/-- A new node may be added that no patch concerns. -/
theorem Absorbs.addNode (h : o.Absorbs patches) {id : String}
    (hid : ∀ x ∈ patches, ¬ x.IsOnto (some id)) (parent : Option String) (label : PlacedLabel) :
    Absorbs { o with nodes := o.nodes.add id parent label } patches := by
  refine h.of_commutes (fun o => { o with nodes := o.nodes.add id parent label })
    fun x hx o => ?_
  have hnew : NodeRow.patch x ⟨id, parent, label⟩ = ⟨id, parent, label⟩ :=
    congrArg (NodeRow.mk id parent) (Patch.placed_of_not (hid x hx) label)
  refine Outline.ext rfl rfl rfl ?_ rfl
  simp only [Outline.patch, Rows.add, List.map_append, List.map_cons, List.map_nil, hnew]

/-- The label of a node may be changed that no patch concerns. -/
theorem Absorbs.relabel (h : o.Absorbs patches) {id : String}
    (hid : ∀ x ∈ patches, ¬ x.IsOnto (some id)) (f : PlacedLabel → PlacedLabel) :
    (o.relabel (some id) f).Absorbs patches := by
  refine h.of_commutes (fun o => o.relabel (some id) f) fun x hx o => ?_
  refine Outline.ext rfl rfl rfl ?_ rfl
  simp only [Outline.patch, Outline.relabel, Rows.relabel, List.map_map]
  refine List.map_congr_left fun row _ => ?_
  by_cases hrow : row.id = id
  · have hsame (label : PlacedLabel) : x.placed (some row.id) label = label :=
      Patch.placed_of_not (hrow ▸ hid x hx) label
    simp only [Function.comp_apply, NodeRow.patch, NodeRow.relabel, if_pos hrow, hsame]
  · have hother : (row.patch x).relabel id f = row.patch x := if_neg hrow
    have hsame : row.relabel id f = row := if_neg hrow
    simp only [Function.comp_apply, hother, hsame]

/-- A new edge may be added that no patch concerns. -/
theorem Absorbs.addEdge (h : o.Absorbs patches) {ref : EdgeRef}
    (href : ∀ x ∈ patches, ¬ x.IsOn ref) (label : EdgeLabel) :
    Absorbs { o with edges := o.edges ++ [⟨ref, label⟩] } patches := by
  refine h.of_commutes (fun o => { o with edges := o.edges ++ [⟨ref, label⟩] }) fun x hx o => ?_
  have hnew : EdgeEntry.patch x ⟨ref, label⟩ = ⟨ref, label⟩ :=
    congrArg (EdgeEntry.mk ref) (Patch.linked_of_not (href x hx) label)
  refine Outline.ext rfl rfl rfl rfl ?_
  simp only [Outline.patch, List.map_append, List.map_cons, List.map_nil, hnew]

/-- Linking two nodes that are there merges into an edge, or adds one that absorbs what is
merged. -/
theorem Absorbs.link (h : o.Absorbs patches) {v w : String} (hv : v ∈ o.nodes.ids)
    (hw : w ∈ o.nodes.ids)
    (hon : ∀ x ∈ patches, ∀ ref, x.IsOn ref → ref ∈ o.refs) (label : EdgeLabel) (attrs : Attrs)
    (points : Option (List Point)) :
    (o.link v w none label fun label => label.merge attrs points).Absorbs
      (patches ++ [.edge (EdgeRef.ofEnds o.directed v w none) attrs points]) := by
  by_cases hmem : EdgeRef.ofEnds o.directed v w none ∈ o.refs
  · rw [o.link_of_mem _ _ hmem, ← patch_edge]
    exact h.patch _
  · rw [o.link_of_not_mem _ _ hmem, Outline.addEdge, Rows.supply_of_mem hv, Rows.supply_of_mem hw,
      Absorbs, patchAll_append]
    have hadded := h.addEdge (fun x hx hon' => hmem (hon x hx _ hon')) (label.merge attrs points)
    rw [Absorbs] at hadded
    rw [hadded]
    -- the new edge has the attributes and the points already, and no other edge is concerned
    refine (patch_edge _ _ _ _).trans (Outline.ext rfl rfl rfl rfl ?_)
    simp only [relabelEdge, List.map_append, List.map_cons, List.map_nil, EdgeEntry.relabel,
      if_true, label.merge_merge_self]
    refine congrArg (· ++ _) ((List.map_congr_left fun edge hedge => if_neg fun heq => ?_).trans
      (List.map_id _))
    exact hmem (heq ▸ List.mem_map_of_mem hedge)

/-! ### What patches leave alone -/

/-- A patch changes labels, and no node. -/
theorem frame_patch (o : Outline) (x : Patch) : (o.patch x).nodes.frame = o.nodes.frame := by
  simp only [Rows.frame, patch, List.map_map]
  rfl

/-- A patch changes labels, and no edge. -/
theorem refs_patch (o : Outline) (x : Patch) : (o.patch x).refs = o.refs := by
  simp only [refs, patch, List.map_map]
  rfl

/-- Any number of patches change no node. -/
theorem frame_patchAll (o : Outline) (patches : List Patch) :
    (o.patchAll patches).nodes.frame = o.nodes.frame := by
  induction patches generalizing o with
  | nil => rfl
  | cons x patches ih => exact (ih (o.patch x)).trans (o.frame_patch x)

/-- Any number of patches change no edge. -/
theorem refs_patchAll (o : Outline) (patches : List Patch) :
    (o.patchAll patches).refs = o.refs := by
  induction patches generalizing o with
  | nil => rfl
  | cons x patches ih => exact (ih (o.patch x)).trans (o.refs_patch x)

/-- Patches leave the kind of the graph as it is. -/
theorem kind_patchAll (o : Outline) (patches : List Patch) :
    (o.patchAll patches).directed = o.directed ∧
      (o.patchAll patches).multigraph = o.multigraph := by
  induction patches generalizing o with
  | nil => exact ⟨rfl, rfl⟩
  | cons x patches ih => exact ih (o.patch x)

/-! ### Nodes behind the others -/

/-- Puts nodes behind the others. -/
def extend (o : Outline) (rows : Rows) : Outline := { o with nodes := o.nodes ++ rows }

/-- Rows behind the others are patched like the others. -/
theorem patch_extend (o : Outline) (rows : Rows) (x : Patch) :
    (o.extend rows).patch x = (o.patch x).extend (rows.map (NodeRow.patch x)) :=
  Outline.ext rfl rfl rfl List.map_append rfl

/-- The label of one of the nodes behind the others is changed. -/
theorem relabel_extend {id : String} (h : id ∉ o.nodes.ids) (rows : Rows)
    (f : PlacedLabel → PlacedLabel) :
    (o.extend rows).relabel (some id) f = o.extend (rows.relabel id f) := by
  have hnodes : o.nodes.map (NodeRow.relabel id f) = o.nodes := Rows.relabel_of_not_mem h f
  refine Outline.ext rfl rfl rfl ?_ rfl
  simp only [relabel, Rows.relabel, extend, List.map_append, hnodes]

/-- One of the nodes behind the others is taken out. -/
theorem removeNode_extend {id : String} (h : id ∉ o.nodes.ids)
    (hends : ∀ ref ∈ o.refs, ¬ ref.HasEnd id) (rows : Rows) :
    (o.extend rows).removeNode id = o.extend (rows.remove id) := by
  have hnodes : o.nodes.filter (fun row => row.id ≠ id) = o.nodes :=
    List.filter_eq_self.2 fun row hrow => decide_eq_true fun heq =>
      h (heq ▸ List.mem_map_of_mem hrow)
  have hedges : o.edges.filter (fun edge => ¬ edge.ref.HasEnd id) = o.edges :=
    List.filter_eq_self.2 fun edge hedge =>
      decide_eq_true (hends edge.ref (List.mem_map_of_mem hedge))
  refine Outline.ext rfl rfl rfl ?_ hedges
  simp only [removeNode, Rows.remove, extend, List.filter_append, hnodes]

/-! ### Outlines that grow -/

/-- An outline shows the nodes of another one, with their parents, and its edges. -/
structure Extends (o o' : Outline) : Prop where
  directed : o'.directed = o.directed
  multigraph : o'.multigraph = o.multigraph
  frame : o.nodes.frame ⊆ o'.nodes.frame
  refs : o.refs ⊆ o'.refs

namespace Extends

variable {o o' o'' : Outline} {id : String}

theorem refl (o : Outline) : o.Extends o := ⟨rfl, rfl, List.Subset.refl _, List.Subset.refl _⟩

/-- Growth goes on from growth. -/
theorem trans (h : o.Extends o') (h' : o'.Extends o'') : o.Extends o'' where
  directed := h'.directed.trans h.directed
  multigraph := h'.multigraph.trans h.multigraph
  frame := List.Subset.trans h.frame h'.frame
  refs := List.Subset.trans h.refs h'.refs

/-- No node goes away while an outline grows. -/
theorem mem_ids (h : o.Extends o') (hid : id ∈ o.nodes.ids) : id ∈ o'.nodes.ids := by
  rw [← Rows.map_fst_frame] at hid ⊢
  exact List.map_subset Prod.fst h.frame hid

/-- An outline with a patch has the same nodes and edges. -/
theorem patch (o : Outline) (x : Patch) : o.Extends (o.patch x) where
  directed := rfl
  multigraph := rfl
  frame := (o.frame_patch x).symm ▸ List.Subset.refl _
  refs := (o.refs_patch x).symm ▸ List.Subset.refl _

/-- An outline with another label on a node has the same nodes and edges. -/
theorem relabel (o : Outline) (id : String) (f : PlacedLabel → PlacedLabel) :
    o.Extends (o.relabel (some id) f) where
  directed := rfl
  multigraph := rfl
  frame := (o.nodes.frame_relabel id f).symm ▸ List.Subset.refl _
  refs := List.Subset.refl _

/-- An outline grows by a node. -/
theorem addNode (o : Outline) (id : String) (parent : Option String) (label : PlacedLabel) :
    o.Extends { o with nodes := o.nodes.add id parent label } where
  directed := rfl
  multigraph := rfl
  frame := by
    rw [Rows.add, Rows.frame_append]
    exact List.subset_append_left _ _
  refs := List.Subset.refl _

/-- Linking two nodes that are there leaves the nodes alone and keeps the edges. -/
theorem link (o : Outline) {v w : String} (hv : v ∈ o.nodes.ids) (hw : w ∈ o.nodes.ids)
    (name : Option String) (label : EdgeLabel) (f : EdgeLabel → EdgeLabel) :
    o.Extends (o.link v w name label f) ∧
      EdgeRef.ofEnds o.directed v w name ∈ (o.link v w name label f).refs := by
  by_cases hmem : EdgeRef.ofEnds o.directed v w name ∈ o.refs
  · have hrefs : (o.relabelEdge (EdgeRef.ofEnds o.directed v w name) f).refs = o.refs := by
      simp only [Outline.refs, relabelEdge, List.map_map]
      exact List.map_congr_left fun edge _ => EdgeEntry.ref_relabel _ f edge
    rw [o.link_of_mem label f hmem, hrefs]
    exact ⟨⟨rfl, rfl, List.Subset.refl _, hrefs.symm ▸ List.Subset.refl _⟩, hmem⟩
  · rw [o.link_of_not_mem label f hmem, addEdge, Rows.supply_of_mem hv, Rows.supply_of_mem hw]
    simp only [Outline.refs, List.map_append, List.map_cons, List.map_nil]
    exact ⟨⟨rfl, rfl, List.Subset.refl _, by simp [Outline.refs]⟩, by simp⟩

end Extends

/-! ### Outlines with patches -/

/-- An outline absorbs patches, which concern nodes with given ids and edges that are there. -/
structure Bears (o : Outline) (named : List String) (patches : List Patch) : Prop where
  absorbs : o.Absorbs patches
  onto : ∀ x ∈ patches, ∀ id, x.IsOnto (some id) → id ∈ o.nodes.ids ∧ id ∈ named
  edge : ∀ x ∈ patches, ∀ ref, x.IsOn ref → ref ∈ o.refs

namespace Bears

variable {o : Outline} {named : List String} {patches : List Patch} {id : String}

/-- Without patches nothing has to be borne. -/
theorem nil (o : Outline) (named : List String) : o.Bears named [] := ⟨rfl, nofun, nofun⟩

/-- The patches go on to concern what is there, with one more of this kind. -/
private theorem of_extends {o' : Outline} {x : Patch} (h : o.Bears named patches)
    (hextends : o.Extends o') (habsorbs : o'.Absorbs (patches ++ [x]))
    (honto : ∀ id, x.IsOnto (some id) → id ∈ o'.nodes.ids ∧ id ∈ named)
    (hedge : ∀ ref, x.IsOn ref → ref ∈ o'.refs) : o'.Bears named (patches ++ [x]) where
  absorbs := habsorbs
  onto := List.forall_mem_append.2 ⟨fun y hy id hid =>
    ⟨hextends.mem_ids (h.onto y hy id hid).1, (h.onto y hy id hid).2⟩,
    List.forall_mem_singleton.2 honto⟩
  edge := List.forall_mem_append.2 ⟨fun y hy ref href => hextends.refs (h.edge y hy ref href),
    List.forall_mem_singleton.2 hedge⟩

/-- A patch for a label in scope, which has been named, is borne from then on. -/
theorem patch_onto (h : o.Bears named patches) {scope : Option String}
    (hscope : ∀ c ∈ scope, c ∈ o.nodes.ids ∧ c ∈ named) (attrs : Attrs)
    (geometry : Option Geometry) :
    (o.patch (.onto scope attrs geometry)).Bears named (patches ++ [.onto scope attrs geometry]) :=
  h.of_extends (.patch o _) (h.absorbs.patch _)
    (fun id hid => ⟨(Extends.patch o _).mem_ids (hscope id hid).1, (hscope id hid).2⟩) nofun

/-- What a link writes on an unnamed edge is borne from then on. -/
theorem link (h : o.Bears named patches) {v w : String} (hv : v ∈ o.nodes.ids)
    (hw : w ∈ o.nodes.ids) (label : EdgeLabel) (attrs : Attrs) (points : Option (List Point)) :
    (o.link v w none label fun label => label.merge attrs points).Bears named
      (patches ++ [.edge (EdgeRef.ofEnds o.directed v w none) attrs points]) := by
  obtain ⟨hextends, hmem⟩ :=
    Extends.link o hv hw none label fun label => label.merge attrs points
  refine h.of_extends hextends (h.absorbs.link hv hw h.edge label attrs points) nofun ?_
  rintro ref rfl
  exact hmem

/-- A new node has an id that no patch is meant for: all patches are for nodes that are there. -/
theorem addNode (h : o.Bears named patches) (hid : id ∉ o.nodes.ids) (parent : Option String)
    (label : PlacedLabel) :
    Bears { o with nodes := o.nodes.add id parent label } named patches where
  absorbs := h.absorbs.addNode (fun x hx hon => hid (h.onto x hx id hon).1) parent label
  onto x hx c hc :=
    ⟨(Extends.addNode o id parent label).mem_ids (h.onto x hx c hc).1, (h.onto x hx c hc).2⟩
  edge := h.edge

/-- No patch concerns a node without one of the given ids. -/
theorem relabel (h : o.Bears named patches) (hid : id ∉ named) (f : PlacedLabel → PlacedLabel) :
    (o.relabel (some id) f).Bears named patches where
  absorbs := h.absorbs.relabel (fun x hx hon => hid (h.onto x hx id hon).2) f
  onto x hx c hc :=
    ⟨(Extends.relabel o id f).mem_ids (h.onto x hx c hc).1, (h.onto x hx c hc).2⟩
  edge := h.edge

end Bears

end Outline

end ClusterGraph
