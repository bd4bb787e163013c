import ClusterGraph.Proofs.Graph.View

/-!
# Nesting

A graph is **nested** when its containers form a forest over its nodes and its lists of members
say the same as its containers: the members of a node are the nodes that lie in it, in the order
of the nodes. This is kept when a node is added (`Graph.Nested.addNode`) and when the last node, as
long as nothing lies in it, is put into another one (`Graph.Nested.nest`), which is never refused
(`Graph.Nested.setParent_eq_nest`).
-/

namespace ClusterGraph.Graph

variable {g g' : Graph} {id p : String}

/-! ### Forests -/

/-- The containers of a node lead to the graph itself. -/
inductive Rooted (g : Graph) : String → Prop where
  | top {id : String} (h : g.container? id = some rootId) : Rooted g id
  | inside {id p : String} (h : g.container? id = some p) (hp : p ≠ rootId)
      (hrooted : Rooted g p) : Rooted g id

/-- Only nodes have containers that lead to the graph itself. -/
theorem Rooted.mem_nodeIds (h : g.Rooted id) : id ∈ g.nodeIds := by
  cases h with
  | top h => exact mem_nodeIds_of_container? h
  | inside h => exact mem_nodeIds_of_container? h

/-- The way up from a node depends on the containers alone. -/
theorem Rooted.congr (h : ∀ id, g'.container? id = g.container? id) (hid : g.Rooted id) :
    g'.Rooted id := by
  induction hid with
  | top hc => exact .top ((h _).trans hc)
  | inside hc hp _ ih => exact .inside ((h _).trans hc) hp ih

/-- A change to a node in which nothing lies does not concern the other nodes. -/
theorem Rooted.of_agree {x : String} (hagree : ∀ id, id ≠ x → g'.container? id = g.container? id)
    (hfree : ∀ id, g.container? id ≠ some x) (h : g.Rooted id) (hne : id ≠ x) : g'.Rooted id := by
  induction h with
  | top hc => exact .top ((hagree _ hne).trans hc)
  | inside hc hp _ ih =>
    exact .inside ((hagree _ hne).trans hc) hp (ih fun e => hfree _ (e ▸ hc))

/-- The containers of the nodes form a forest, and the lists of members agree with them. -/
structure Nested (g : Graph) : Prop where
  compound : g.compound = true
  plain : ∀ id ∈ g.nodeIds, IsPlain id
  rooted : ∀ id ∈ g.nodeIds, g.Rooted id
  listed_eq : ∀ p, g.listed p = g.nodeIds.filter fun id => g.container? id = some p
  nodeCount_eq : g.nodeCount = g.nodeIds.length

namespace Nested

/-- Nothing but the nesting itself is looked at. -/
theorem congr (h : g.Nested) (hsame : SameNesting g g') : g'.Nested where
  compound := hsame.compound.trans h.compound
  plain id hid := h.plain id (hsame.nodeIds ▸ hid)
  rooted id hid := (h.rooted id (hsame.nodeIds ▸ hid)).congr hsame.container?
  listed_eq p := by simp only [hsame.listed, hsame.nodeIds, hsame.container?, h.listed_eq]
  nodeCount_eq := by rw [hsame.nodeCount, hsame.nodeIds, h.nodeCount_eq]

/-- The lists of members and the containers say the same. -/
theorem mem_listed_iff (h : g.Nested) : id ∈ g.listed p ↔ g.container? id = some p := by
  rw [h.listed_eq, List.mem_filter, decide_eq_true_iff, and_iff_right_iff_imp]
  exact mem_nodeIds_of_container?

/-- Nothing lies in a node without members. -/
theorem container?_ne_of_listed_eq_nil (h : g.Nested) (hempty : g.listed p = []) (id : String) :
    g.container? id ≠ some p := by
  intro hc
  have hmem := h.mem_listed_iff.2 hc
  rw [hempty] at hmem
  cases hmem

/-- No member is listed twice. -/
theorem listed_nodup (h : g.Nested) (p : String) : (g.listed p).Nodup := by
  rw [h.listed_eq]
  exact g.nodeIds_nodup.filter _

/-- The key of the graph itself is no node. -/
theorem ne_rootId (h : g.Nested) (hid : id ∈ g.nodeIds) : id ≠ rootId := (h.plain id hid).ne_rootId

/-- What a node lies in is a node, or the graph itself. -/
theorem eq_rootId_or_mem (h : g.Nested) (hc : g.container? id = some p) :
    p = rootId ∨ p ∈ g.nodeIds := by
  have hid := h.rooted id (mem_nodeIds_of_container? hc)
  cases hid with
  | top hc' => exact .inl (Option.some.inj (hc.symm.trans hc'))
  | inside hc' _ hrooted =>
    exact .inr (Option.some.inj (hc.symm.trans hc') ▸ hrooted.mem_nodeIds)

/-- Nothing lies in an id that is no node. -/
theorem container?_ne (h : g.Nested) (hp : p ∉ g.nodeIds) (hroot : p ≠ rootId) (id : String) :
    g.container? id ≠ some p := by
  intro hc
  rcases h.eq_rootId_or_mem hc with e | hmem
  · exact hroot e
  · exact hp hmem

/-- What is no node has no members. -/
theorem listed_eq_nil (h : g.Nested) (hp : p ∉ g.nodeIds) (hroot : p ≠ rootId) :
    g.listed p = [] := by
  refine List.eq_nil_iff_forall_not_mem.2 fun id hid => ?_
  exact h.container?_ne hp hroot id (h.mem_listed_iff.1 hid)

/-- The members that a graph shows of a node are the nodes that lie in it. -/
theorem mem_children_iff (h : g.Nested) : id ∈ g.children p ↔ g.container? id = some p := by
  rw [children_eq_listed h.compound, h.mem_listed_iff]

/-- A node without a parent lies in the graph itself. -/
theorem parent?_eq_none_iff (h : g.Nested) (hid : id ∈ g.nodeIds) :
    g.parent? id = none ↔ g.container? id = some rootId := by
  obtain ⟨p, hp⟩ := Option.isSome_iff_exists.1 (container?_isSome_iff.2 hid)
  by_cases hroot : p = rootId
  · subst hroot
    refine iff_of_true (Option.eq_none_iff_forall_ne_some.2 fun q hq => ?_) hp
    obtain ⟨hq, hne⟩ := (parent?_eq_some_iff h.compound).1 hq
    exact hne (Option.some.inj (hq.symm.trans hp))
  · have hparent := (parent?_eq_some_iff h.compound).2 ⟨hp, hroot⟩
    rw [hparent, hp]
    simp only [reduceCtorEq, Option.some.injEq, hroot]

end Nested

/-! ### Adding nodes -/

/-- Adding a node, with every table written out. -/
theorem addNode_eq (h : g.compound = true) (hid : id ≠ rootId) (hnew : id ∉ g.listed rootId)
    (label : PlacedLabel) :
    g.addNode id label = { g with
      nodes := g.nodes.insert id ⟨label, rootId, Table.empty, Table.empty⟩
      members := (g.members.insert id []).insert rootId (g.listed rootId ++ [id])
      nodeCount := g.nodeCount + 1 } := by
  have hlisted : ((g.members.insert id []).get? rootId).getD [] = g.listed rootId := by
    rw [Table.get?_insert, if_neg hid.symm, listed]
  simp only [addNode, h, if_true, addMember, hlisted, if_neg hnew]

/-- A new node lies at the top, and all others lie where they did. -/
theorem container?_addNode (h : g.compound = true) (hid : id ≠ rootId)
    (hnew : id ∉ g.listed rootId) (label : PlacedLabel) (x : String) :
    (g.addNode id label).container? x = if x = id then some rootId else g.container? x := by
  rw [addNode_eq h hid hnew, container?, Table.get?_insert]
  split <;> rfl

/-- A new node is the last member at the top, and has no members. -/
theorem listed_addNode (h : g.compound = true) (hid : id ≠ rootId) (hnew : id ∉ g.listed rootId)
    (label : PlacedLabel) (x : String) :
    (g.addNode id label).listed x =
      if x = rootId then g.listed rootId ++ [id] else if x = id then [] else g.listed x := by
  rw [addNode_eq h hid hnew, listed, Table.get?_insert, Table.get?_insert]
  split
  · rfl
  · split <;> rfl

namespace Nested

/-- What is no node is no member. -/
theorem not_mem_listed (h : g.Nested) (hid : id ∉ g.nodeIds) (p : String) : id ∉ g.listed p :=
  fun hmem => hid (mem_nodeIds_of_container? (h.mem_listed_iff.1 hmem))

/-- A new node stands behind all others. -/
theorem nodeIds_addNode (h : g.Nested) (hid : id ∉ g.nodeIds) (hplain : IsPlain id)
    (label : PlacedLabel) : (g.addNode id label).nodeIds = g.nodeIds ++ [id] := by
  rw [addNode_eq h.compound hplain.ne_rootId (h.not_mem_listed hid _), nodeIds, Table.keys_insert]
  exact if_neg hid

/-- A new node comes without edges. -/
theorem sameLinks_addNode (h : g.Nested) (hid : id ∉ g.nodeIds) (hplain : IsPlain id)
    (label : PlacedLabel) : SameLinks g (g.addNode id label) := by
  rw [addNode_eq h.compound hplain.ne_rootId (h.not_mem_listed hid _)]
  refine ⟨rfl, rfl, rfl, rfl, fun x key ref => ?_, rfl⟩
  unfold Files
  rw [Table.get?_insert]
  by_cases hx : x = id
  · -- nothing is filed with the new node, and nothing was while it was no node
    have hnone : g.nodes.get? x = none := Table.get?_eq_none_iff.2 (hx ▸ hid)
    simp [hx ▸ hnone, hx, NodeEntry.Files]
  · rw [if_neg hx]

/-- A graph stays nested when a node is added at the top. -/
theorem addNode (h : g.Nested) (hid : id ∉ g.nodeIds) (hplain : IsPlain id)
    (label : PlacedLabel) : (g.addNode id label).Nested := by
  have hroot := hplain.ne_rootId
  have hnew := h.not_mem_listed hid rootId
  have hids := h.nodeIds_addNode hid hplain label
  have hcont := container?_addNode h.compound hroot hnew label
  refine ⟨?_, fun x hx => ?_, fun x hx => ?_, fun p => ?_, ?_⟩
  · rw [addNode_eq h.compound hroot hnew]
    exact h.compound
  · rw [hids] at hx
    rcases List.mem_append.1 hx with hx | hx
    · exact h.plain x hx
    · exact List.mem_singleton.1 hx ▸ hplain
  · rw [hids] at hx
    by_cases hxid : x = id
    · exact .top (by rw [hcont, if_pos hxid])
    · have hx' : x ∈ g.nodeIds := by simpa [hxid] using hx
      exact (h.rooted x hx').of_agree (fun y hy => by rw [hcont, if_neg hy])
        (h.container?_ne hid hroot) hxid
  · -- the nodes that were there are listed as before, and the new one in the root only
    have hold : g.nodeIds.filter (fun y => (g.addNode id label).container? y = some p) =
        g.listed p := by
      rw [h.listed_eq]
      refine List.filter_congr fun y hy => ?_
      have hyid : y ≠ id := fun e => hid (e ▸ hy)
      rw [hcont, if_neg hyid]
    rw [hids, List.filter_append, hold, listed_addNode h.compound hroot hnew]
    by_cases hp : p = rootId
    · simp [hp, hcont]
    · have hp' : rootId ≠ p := fun e => hp e.symm
      have hnil : p = id → g.listed p = [] := fun e => h.listed_eq_nil (e ▸ hid) hp
      simpa [hp, hp', hcont] using hnil
  · rw [hids, List.length_append, ← h.nodeCount_eq, addNode_eq h.compound hroot hnew]
    rfl

end Nested

/-! ### Making sure that a node is there -/

/-- To set a missing node is to add it. -/
theorem setNode_of_not_mem (hid : id ∉ g.nodeIds) (label : PlacedLabel) :
    g.setNode id (some label) = g.addNode id label := by
  simp only [setNode, hasNode_eq_false_iff.2 hid, Bool.false_eq_true, if_false, Option.getD_some]

/-- To make sure of a node that is there is to do nothing. -/
theorem setNode_none_of_mem (hid : id ∈ g.nodeIds) : g.setNode id none = g := by
  simp only [setNode, hasNode_iff.2 hid, if_true]

/-- To make sure of a missing node is to add it without attributes. -/
theorem setNode_none_of_not_mem (hid : id ∉ g.nodeIds) :
    g.setNode id none = g.addNode id (PlacedLabel.ofAttrs Attrs.empty) := by
  simp only [setNode, hasNode_eq_false_iff.2 hid, Bool.false_eq_true, if_false, Option.getD_none]

namespace Nested

/-- A graph stays nested when a node is made sure of. -/
theorem setNode (h : g.Nested) (hplain : IsPlain id) : (g.setNode id none).Nested := by
  by_cases hid : id ∈ g.nodeIds
  · rwa [setNode_none_of_mem hid]
  · rw [setNode_none_of_not_mem hid]
    exact h.addNode hid hplain _

/-- Making sure of a node does not concern the edges. -/
theorem sameLinks_setNode (h : g.Nested) (hplain : IsPlain id) :
    SameLinks g (g.setNode id none) := by
  by_cases hid : id ∈ g.nodeIds
  · rw [setNode_none_of_mem hid]
    exact .refl g
  · rw [setNode_none_of_not_mem hid]
    exact h.sameLinks_addNode hid hplain _

/-- A node that is made sure of stands behind all others, if it is new. -/
theorem nodeIds_setNode (h : g.Nested) (hplain : IsPlain id) :
    (g.setNode id none).nodeIds = if id ∈ g.nodeIds then g.nodeIds else g.nodeIds ++ [id] := by
  split
  · next hid => rw [setNode_none_of_mem hid]
  · next hid => rw [setNode_none_of_not_mem hid, h.nodeIds_addNode hid hplain]

/-- A node that is made sure of lies at the top, if it is new. -/
theorem container?_setNode (h : g.Nested) (hplain : IsPlain id) (x : String) :
    (g.setNode id none).container? x =
      if x = id ∧ id ∉ g.nodeIds then some rootId else g.container? x := by
  by_cases hid : id ∈ g.nodeIds
  · rw [setNode_none_of_mem hid, if_neg fun e => e.2 hid]
  · rw [setNode_none_of_not_mem hid,
      container?_addNode h.compound hplain.ne_rootId (h.not_mem_listed hid rootId)]
    simp only [hid, not_false_eq_true, and_true]

end Nested

/-! ### Moving nodes -/

section MoveTo

variable {c : String}

/-- A node is taken from one list of members and put into another, and its container is changed. -/
private theorem moveTo_eq (hc : g.container? id = some p) :
    g.moveTo id c = ({ g.dropMember p id with
      nodes := g.nodes.modify id fun entry => { entry with parent := c } }).addMember c id := by
  obtain ⟨entry, hentry, hparent⟩ := Option.map_eq_some_iff.1 hc
  simp only [moveTo, hentry, hparent, dropMember]

/-- Moving a node does not concern the edges. -/
theorem sameLinks_moveTo (hc : g.container? id = some p) (c : String) :
    SameLinks g (g.moveTo id c) := by
  rw [moveTo_eq hc]
  have hentry := sameLinks_modifyEntry (f := fun entry => { entry with parent := c })
    (fun _ _ _ => Iff.rfl) g id
  exact ⟨rfl, rfl, rfl, rfl, hentry.files, rfl⟩

/-- Moving a node does not concern the order of the nodes. -/
theorem nodeIds_moveTo (hc : g.container? id = some p) (c : String) :
    (g.moveTo id c).nodeIds = g.nodeIds := by
  rw [moveTo_eq hc]
  exact Table.keys_modify _ _ _

/-- The node that is moved changes its container, and no other does. -/
theorem container?_moveTo (hc : g.container? id = some p) (c x : String) :
    (g.moveTo id c).container? x = if x = id then some c else g.container? x := by
  have hnodes : (g.moveTo id c).nodes =
      g.nodes.modify id fun entry => { entry with parent := c } := by
    rw [moveTo_eq hc]
    rfl
  rw [container?, hnodes, Table.get?_modify]
  split
  · next hx =>
    obtain ⟨entry, hentry, -⟩ := Option.map_eq_some_iff.1 hc
    simp [hx, hentry]
  · rfl

/-- A node leaves the members of the old container and comes last among those of the new one. -/
theorem listed_moveTo (hc : g.container? id = some p) (hne : c ≠ p) (hnew : id ∉ g.listed c)
    (x : String) :
    (g.moveTo id c).listed x =
      if x = c then g.listed c ++ [id] else if x = p then (g.listed p).erase id
      else g.listed x := by
  have hdrop : ∀ y, (g.dropMember p id).listed y =
      if y = p then (g.listed p).erase id else g.listed y := by
    intro y
    rw [dropMember, listed, Table.get?_modify]
    split
    · next hy =>
      rw [hy, listed]
      cases g.members.get? p <;> rfl
    · rfl
  have hold : (g.dropMember p id).listed c = g.listed c := by rw [hdrop, if_neg hne]
  rw [← hdrop, moveTo_eq hc, addMember, listed, Table.get?_insert]
  split
  · change (if id ∈ (g.dropMember p id).listed c then _
      else (g.dropMember p id).listed c ++ [id]) = _
    rw [hold, if_neg hnew]
  · rfl

namespace Nested

variable (h : g.Nested) (hc : g.container? id = some rootId)

include h hc

/-- In a place other than its new one the node is missing afterwards. -/
private theorem filter_moveTo_of_ne {q : String} (hq : q ≠ c) :
    g.nodeIds.filter (fun x => (g.moveTo id c).container? x = some q) =
      (g.listed q).filter (· ≠ id) := by
  rw [h.listed_eq, List.filter_filter]
  refine List.filter_congr fun x _ => ?_
  rw [container?_moveTo hc]
  by_cases hx : x = id <;> simp [hx, Ne.symm hq]

variable (hmem : c ∈ g.nodeIds)

include hmem

/-- When a node without members is moved into another one, every way up still leads to the graph:
the ways of the other nodes do not pass it. -/
private theorem rooted_moveTo (hfree : ∀ x, g.container? x ≠ some id) (hne : c ≠ id) {x : String}
    (hx : x ∈ g.nodeIds) : (g.moveTo id c).Rooted x := by
  have hagree : ∀ y, y ≠ id → (g.moveTo id c).container? y = g.container? y := fun y hy => by
    rw [container?_moveTo hc, if_neg hy]
  -- the containers of `c` do not lead through the node, in which nothing lies
  by_cases hid : x = id
  · refine .inside (by rw [container?_moveTo hc, if_pos hid]) (h.ne_rootId hmem) ?_
    exact (h.rooted c hmem).of_agree hagree hfree hne
  · exact (h.rooted x hx).of_agree hagree hfree hid

/-- The node is the last of the nodes that lie in `c` afterwards if it stands behind all that did
before. -/
private theorem filter_moveTo_self {ids rest : List String} (hids : g.nodeIds = ids ++ id :: rest)
    (hrest : ∀ x ∈ rest, g.container? x ≠ some c) :
    g.nodeIds.filter (fun x => (g.moveTo id c).container? x = some c) = g.listed c ++ [id] := by
  have hcont := container?_moveTo hc c
  have hroot : c ≠ rootId := h.ne_rootId hmem
  have hnodup := List.nodup_append.1 (hids ▸ g.nodeIds_nodup)
  have hfront : ids.filter (fun x => (g.moveTo id c).container? x = some c) =
      ids.filter fun x => g.container? x = some c := by
    refine List.filter_congr fun x hx => ?_
    have hne : x ≠ id := hnodup.2.2 x hx id List.mem_cons_self
    rw [hcont, if_neg hne]
  have hback : rest.filter (fun x => (g.moveTo id c).container? x = some c) = [] := by
    refine List.filter_eq_nil_iff.2 fun x hx => ?_
    have hne : x ≠ id := fun e => (List.nodup_cons.1 hnodup.2.1).1 (e ▸ hx)
    rw [hcont, if_neg hne, decide_eq_true_iff]
    exact hrest x hx
  have hback' : rest.filter (fun x => g.container? x = some c) = [] :=
    List.filter_eq_nil_iff.2 fun x hx => by simpa using hrest x hx
  rw [h.listed_eq, hids, List.filter_append, List.filter_append,
    List.filter_cons_of_pos (by simp [hcont]), List.filter_cons_of_neg (by simp [hc, hroot.symm]),
    hfront, hback, hback', List.append_nil]

/-- A node without members that lies in the graph itself may move into any other node. It becomes
the last member there, so it has to stand behind all members in the order of the nodes. -/
theorem moveTo (hfree : ∀ x, g.container? x ≠ some id) (hne : c ≠ id) {ids rest : List String}
    (hids : g.nodeIds = ids ++ id :: rest) (hrest : ∀ x ∈ rest, g.container? x ≠ some c) :
    (g.moveTo id c).Nested := by
  have hroot : c ≠ rootId := h.ne_rootId hmem
  have hnew : id ∉ g.listed c := by
    rw [h.mem_listed_iff, hc, Option.some.injEq]
    exact hroot.symm
  have hnodes := nodeIds_moveTo hc c
  refine ⟨?_, fun x hx => h.plain x (hnodes ▸ hx), fun x hx => ?_, fun q => ?_, ?_⟩
  · rw [moveTo_eq hc]
    exact h.compound
  · exact h.rooted_moveTo hc hmem hfree hne (hnodes ▸ hx)
  · rw [listed_moveTo hc hroot hnew, hnodes]
    by_cases hq : q = c
    · rw [if_pos hq, hq, h.filter_moveTo_self hc hmem hids hrest]
    · rw [if_neg hq, h.filter_moveTo_of_ne hc hq]
      by_cases hqroot : q = rootId
      · rw [if_pos hqroot, hqroot, erase_eq_filter_ne (h.listed_nodup rootId)]
      · -- the node was not listed there, since it lay in the graph itself
        rw [if_neg hqroot]
        refine (List.filter_eq_self.2 fun x hx => ?_).symm
        rw [decide_eq_true_iff]
        rintro rfl
        exact hqroot (Option.some.inj ((h.mem_listed_iff.1 hx).symm.trans hc))
  · rw [hnodes, ← h.nodeCount_eq, moveTo_eq hc]
    rfl

end Nested

end MoveTo

/-! ### Nesting a new node -/

/-- An id in which nothing lies is above no node. -/
theorem isAbove_eq_false (hfree : ∀ x, g.parent? x ≠ some id) (fuel : Nat) (x : String) :
    g.isAbove id fuel (g.parent? x) = false := by
  induction fuel generalizing x with
  | zero => rfl
  | succ fuel ih =>
    cases hx : g.parent? x with
    | none => rfl
    | some y =>
      have hy : y ≠ id := fun e => hfree x (e ▸ hx)
      rw [isAbove, ih y, Bool.or_false, beq_eq_false_iff_ne]
      exact hy

/-- The graph with a node moved into `c`, which is added when it is no node. -/
def nest (g : Graph) (id c : String) : Graph := (g.setNode c none).moveTo id c

namespace Nested

variable {c : String} {ids : List String}

/-- A node in which nothing lies can be put into any other node. -/
theorem setParent_eq_nest (h : g.Nested) (hmem : id ∈ g.nodeIds)
    (hfree : ∀ x, g.container? x ≠ some id) (hplain : IsPlain c) :
    g.setParent id (some c) = .ok (g.nest id c) := by
  have hparent : ∀ x, g.parent? x ≠ some id := fun x hx =>
    hfree x ((parent?_eq_some_iff h.compound).1 hx).1
  have hmem' : id ∈ (g.setNode c none).nodeIds := by
    rw [h.nodeIds_setNode hplain]
    split
    · exact hmem
    · exact List.mem_append_left _ hmem
  simp only [setParent, h.compound, Bool.not_true, Bool.false_eq_true, if_false,
    isAbove_eq_false hparent, setNode_none_of_mem hmem', Graph.nest]

variable (h : g.Nested) (hc : g.container? id = some rootId) (hplain : IsPlain c) (hne : c ≠ id)

include h hc hplain hne

/-- A node stays at the top when another one is made sure of. -/
private theorem container?_setNode_self : (g.setNode c none).container? id = some rootId := by
  rw [h.container?_setNode hplain, if_neg fun e => hne e.1.symm, hc]

/-- Nesting does not concern the edges. -/
theorem sameLinks_nest : SameLinks g (g.nest id c) :=
  (h.sameLinks_setNode hplain).trans (sameLinks_moveTo (h.container?_setNode_self hc hplain hne) c)

/-- A node that is nested lies in its new container, which lies at the top if it is new. -/
theorem container?_nest (x : String) :
    (g.nest id c).container? x = if x = id then some c
      else if x = c ∧ c ∉ g.nodeIds then some rootId else g.container? x := by
  rw [Graph.nest, container?_moveTo (h.container?_setNode_self hc hplain hne),
    h.container?_setNode hplain]

/-- The last node of a graph, when nothing lies in it, may be put into any other node. -/
theorem nest (hids : g.nodeIds = ids ++ [id]) (hfree : ∀ x, g.container? x ≠ some id) :
    (g.nest id c).Nested := by
  have hcont := h.container?_setNode hplain
  have hroot := hplain.ne_rootId
  have hfree' : ∀ x, (g.setNode c none).container? x ≠ some id := fun x => by
    rw [hcont]
    split
    · rw [Ne, Option.some.injEq]
      exact (h.ne_rootId (mem_nodeIds_of_container? hc)).symm
    · exact hfree x
  have hself := h.container?_setNode_self hc hplain hne
  have hnodes := h.nodeIds_setNode hplain
  by_cases hmem : c ∈ g.nodeIds
  · rw [if_pos hmem, hids] at hnodes
    exact (h.setNode hplain).moveTo hself (by rwa [hnodes, ← hids]) hfree' hne hnodes
      fun _ hx => absurd hx List.not_mem_nil
  · rw [if_neg hmem, hids, List.append_assoc, List.cons_append, List.nil_append] at hnodes
    refine (h.setNode hplain).moveTo hself (by simp [hnodes]) hfree' hne hnodes fun x hx => ?_
    rw [List.mem_singleton.1 hx, hcont, if_pos ⟨rfl, hmem⟩, Ne, Option.some.injEq]
    exact hroot.symm

end Nested

end ClusterGraph.Graph
