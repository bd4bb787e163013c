import ClusterGraph.Proofs.Graph.Links
import ClusterGraph.Proofs.Graph.Nesting

/-!
# Removing a node with its edges

By itself `Graph.removeNode` takes out only unnamed edges, and which ones it takes out depends on
what is still filed with the node. A build therefore removes the edges of a node first. On a
**sound** graph, one that is nested and linked, this takes out exactly the edges that have the
node as an end: all of them are filed with the node, whatever was inserted and removed before, and
stale entries name no other edge (`Graph.Sound.removeWithEdges`).
-/

namespace ClusterGraph.Graph

variable {g g' : Graph} {id c key : String} {ref : EdgeRef}

/-- Nodes, nesting and edges of a graph fit together. -/
structure Sound (g : Graph) : Prop where
  nested : g.Nested
  linked : g.Linked

/-- Nothing but the nesting and the edges is looked at. -/
theorem Sound.congr (h : g.Sound) (hnesting : SameNesting g g') (hlinks : SameLinks g g') :
    g'.Sound :=
  ⟨h.nested.congr hnesting, h.linked.congr hlinks⟩

/-- A graph without nodes is sound. -/
theorem sound_empty (directed multigraph : Bool) :
    (Graph.empty directed multigraph true).Sound where
  nested := by
    refine ⟨rfl, nofun, nofun, fun p => ?_, rfl⟩
    change ((Table.empty.insert rootId []).get? p).getD [] = []
    rw [Table.get?_insert]
    split <;> rfl
  linked := by
    refine ⟨rfl, nofun, nofun, fun id key ref hfiles => ?_, rfl⟩
    obtain ⟨entry, hentry, -⟩ := hfiles
    cases hentry

/-! ### A node without edges -/

/-- Under keys that are not in use there is nothing to remove. -/
theorem foldl_removeUnnamed_eq_self {keys : List String} (h : ∀ key ∈ keys, key ∉ g.edges.keys) :
    keys.foldl removeUnnamed g = g := by
  induction keys with
  | nil => rfl
  | cons key keys ih =>
    have hkey : g.edges.get? key = none := Table.get?_eq_none_iff.2 (h key List.mem_cons_self)
    rw [List.foldl_cons, removeUnnamed, hkey]
    exact ih fun k hk => h k (List.mem_cons_of_mem _ hk)

/-- Removing a node without members and without listed edges, with every table written out. -/
theorem removeNode_eq (hcompound : g.compound = true) (hc : g.container? id = some c)
    (hempty : g.listed id = []) (hfree : ∀ key ref, g.Files id key ref → key ∉ g.edges.keys) :
    g.removeNode id = { g with
      nodes := g.nodes.erase id
      members := (g.members.modify c fun listed => listed.erase id).erase id
      nodeCount := g.nodeCount - 1 } := by
  obtain ⟨entry, hentry, hparent⟩ := Option.map_eq_some_iff.1 hc
  -- nothing lies in the node, also when it is taken out of its container
  have hmembers : ((g.members.modify c fun listed => listed.erase id).get? id).getD [] = [] := by
    rw [Table.get?_modify]
    rw [listed] at hempty
    cases hget : g.members.get? id with
    | none => simp
    | some l =>
      rw [hget, Option.getD_some] at hempty
      simp [hempty]
  -- the edges that are still filed with it are gone, so removing them does nothing
  have hkeys : ∀ key ∈ entry.incoming.keys ++ entry.outgoing.keys, key ∉ g.edges.keys := by
    intro key hkey
    have hfiles : ∃ ref, entry.Files key ref := by
      rcases List.mem_append.1 hkey with hkey | hkey
      · obtain ⟨ref, href⟩ := Option.isSome_iff_exists.1 (Table.get?_isSome_iff.2 hkey)
        exact ⟨ref, .inl href⟩
      · obtain ⟨ref, href⟩ := Option.isSome_iff_exists.1 (Table.get?_isSome_iff.2 hkey)
        exact ⟨ref, .inr href⟩
    obtain ⟨ref, href⟩ := hfiles
    exact hfree key ref ⟨entry, hentry, href⟩
  simp only [removeNode, hentry, hparent, hcompound, if_true, dropMember, children, hmembers,
    List.foldl_nil]
  exact foldl_removeUnnamed_eq_self hkeys

section RemoveNode

variable (h : g.Sound) (hc : g.container? id = some c) (hempty : g.listed id = [])
  (hfree : ∀ key ref, g.Files id key ref → key ∉ g.edges.keys)

include h hc hempty hfree

/-- The other nodes stay in their order. -/
theorem nodeIds_removeNode : (g.removeNode id).nodeIds = g.nodeIds.filter (· ≠ id) := by
  rw [removeNode_eq h.nested.compound hc hempty hfree, nodeIds, Table.keys_erase]
  exact erase_eq_filter_ne g.nodeIds_nodup id

/-- The other nodes stay where they lie, since nothing lies in the one that goes. -/
theorem container?_removeNode (x : String) :
    (g.removeNode id).container? x = if x = id then none else g.container? x := by
  rw [removeNode_eq h.nested.compound hc hempty hfree, container?, Table.get?_erase]
  split <;> rfl

/-- The node leaves the members of its container, and has none of its own. -/
theorem listed_removeNode (x : String) :
    (g.removeNode id).listed x =
      if x = id then [] else if x = c then (g.listed c).erase id else g.listed x := by
  rw [removeNode_eq h.nested.compound hc hempty hfree, listed, Table.get?_erase, Table.get?_modify]
  split
  · rfl
  · split
    · next hx =>
      rw [hx, listed]
      cases g.members.get? c <;> rfl
    · rfl

/-- What is filed with the other nodes stays filed. -/
theorem files_removeNode_iff (x k : String) (r : EdgeRef) :
    (g.removeNode id).Files x k r ↔ x ≠ id ∧ g.Files x k r := by
  rw [removeNode_eq h.nested.compound hc hempty hfree, Files, Table.get?_erase]
  by_cases hx : x = id <;> simp [hx, Files]

/-- The node is missing among the members of every node. -/
private theorem listed_removeNode_eq_filter (p : String) :
    (g.removeNode id).listed p = (g.listed p).filter (· ≠ id) := by
  rw [listed_removeNode h hc hempty hfree]
  by_cases hp : p = id
  · simp [hp, hempty]
  · rw [if_neg hp]
    by_cases hpc : p = c
    · rw [if_pos hpc, hpc, erase_eq_filter_ne (h.nested.listed_nodup c)]
    · -- the node was not listed there, since it lay in `c`
      rw [if_neg hpc]
      refine (List.filter_eq_self.2 fun x hx => ?_).symm
      rw [decide_eq_true_iff]
      rintro rfl
      exact hpc (Option.some.inj ((h.nested.mem_listed_iff.1 hx).symm.trans hc))

/-- The way up from the other nodes does not pass a node without members. -/
private theorem nested_removeNode : (g.removeNode id).Nested := by
  have hids := nodeIds_removeNode h hc hempty hfree
  have hcont := container?_removeNode h hc hempty hfree
  refine ⟨?_, fun x hx => ?_, fun x hx => ?_, fun p => ?_, ?_⟩
  · rw [removeNode_eq h.nested.compound hc hempty hfree]
    exact h.nested.compound
  · exact h.nested.plain x (List.mem_of_mem_filter (hids ▸ hx))
  · rw [hids, List.mem_filter] at hx
    exact (h.nested.rooted x hx.1).of_agree (fun y hy => by rw [hcont, if_neg hy])
      (h.nested.container?_ne_of_listed_eq_nil hempty) (of_decide_eq_true hx.2)
  · rw [listed_removeNode_eq_filter h hc hempty hfree, hids, h.nested.listed_eq,
      List.filter_filter, List.filter_filter]
    refine List.filter_congr fun x _ => ?_
    rw [hcont]
    by_cases hx : x = id <;> simp [hx]
  · have hcount : (g.removeNode id).nodeCount = g.nodeCount - 1 := by
      rw [removeNode_eq h.nested.compound hc hempty hfree]
    rw [hcount, hids, ← erase_eq_filter_ne g.nodeIds_nodup,
      List.length_erase_of_mem (mem_nodeIds_of_container? hc), h.nested.nodeCount_eq]

/-- The edges of a node have gone before it, so those that are left keep their ends. -/
private theorem linked_removeNode : (g.removeNode id).Linked := by
  have hfiles := files_removeNode_iff h hc hempty hfree
  have heq := removeNode_eq h.nested.compound hc hempty hfree
  have hrefs : (g.removeNode id).edgeRefs = g.edgeRefs := by rw [heq]; rfl
  have hdirected : (g.removeNode id).directed = g.directed := by rw [heq]
  refine ⟨?_, ?_, fun r hr x hend => ?_, fun x k r hx => ?_, ?_⟩
  · rw [hrefs, hdirected, ← h.linked.keys_eq, heq]
  · rw [hrefs, hdirected]
    exact h.linked.stored
  · rw [hrefs] at hr
    rw [hdirected, hfiles]
    have hfiled := h.linked.filed r hr x hend
    refine ⟨?_, hfiled⟩
    rintro rfl
    exact hfree _ r hfiled ((h.linked.mem_keys_iff (h.linked.stored r hr)).2 hr)
  · rw [hdirected]
    exact h.linked.of_files x k r ((hfiles x k r).1 hx).2
  · rw [hrefs, ← h.linked.edgeCount_eq, heq]

end RemoveNode

/-! ### A node with its edges -/

/-- The edges filed with a node are removed, and then the node. -/
def removeWithEdges (g : Graph) (id : String) : Graph :=
  (((g.nodeEdges? id none).getD []).foldl
    (fun g ref => g.removeEdge ref.source ref.target ref.name) g).removeNode id

/-- What is left of a graph when a node and all its edges are taken out. -/
structure WithoutNode (id : String) (g g' : Graph) : Prop where
  sound : g'.Sound
  directed : g'.directed = g.directed
  multigraph : g'.multigraph = g.multigraph
  nodeIds : g'.nodeIds = g.nodeIds.filter (· ≠ id)
  container? : ∀ x, g'.container? x = if x = id then none else g.container? x
  entries : g'.edges.entries = g.edges.entries.filter fun entry => ¬ entry.2.ref.HasEnd id

/-- The edges of a node are those that are filed with it. -/
theorem mem_nodeEdges?_iff : ref ∈ (g.nodeEdges? id none).getD [] ↔ ∃ key, g.Files id key ref := by
  unfold nodeEdges? inEdges? outEdges? Files
  cases g.nodes.get? id with
  | none => simp
  | some entry =>
    simp [NodeEntry.Files, Table.mem_values_iff, exists_or]

/-- Whatever is filed with a node is in stored form. -/
theorem Linked.isStored_of_mem_nodeEdges? (h : g.Linked)
    (href : ref ∈ (g.nodeEdges? id none).getD []) : ref.IsStored g.directed := by
  obtain ⟨key, hfiles⟩ := mem_nodeEdges?_iff.1 href
  exact (h.of_files id key ref hfiles).1

/-- Among the edges of a graph, those filed with a node are those that have it as an end. -/
theorem Linked.mem_nodeEdges?_iff_hasEnd (h : g.Linked) (href : ref ∈ g.edgeRefs) :
    ref ∈ (g.nodeEdges? id none).getD [] ↔ ref.HasEnd id := by
  rw [mem_nodeEdges?_iff]
  exact ⟨fun ⟨key, hfiles⟩ => (h.of_files id key ref hfiles).2.2,
    fun hend => ⟨_, h.filed ref href id hend⟩⟩

/-- To remove a missing node is to do nothing. -/
theorem removeWithEdges_of_not_mem (hid : id ∉ g.nodeIds) : g.removeWithEdges id = g := by
  have hnone : g.nodes.get? id = none := Table.get?_eq_none_iff.2 hid
  simp only [removeWithEdges, nodeEdges?, inEdges?, hnone, Option.map_none, Option.getD_none,
    List.foldl_nil, removeNode]

/-- Taking out an id that is no node takes out nothing. -/
theorem Sound.withoutNode_self (h : g.Sound) (hid : id ∉ g.nodeIds) : WithoutNode id g g := by
  refine ⟨h, rfl, rfl, (List.filter_eq_self.2 fun x hx => ?_).symm, fun x => ?_,
    (List.filter_eq_self.2 fun e he => ?_).symm⟩
  · rw [decide_eq_true_iff]
    exact fun e => hid (e ▸ hx)
  · split
    · next hx => rw [hx, container?_eq_none_iff.2 hid]
    · rfl
  · have href := mem_edgeRefs_of_get? (Table.mem_entries_iff.1 he)
    rw [decide_eq_true_iff]
    exact fun hend => hid (h.linked.mem_nodeIds href hend)

/-- Removing a node without members together with what is filed with it takes out that node and
the edges that have it as an end, and nothing else. -/
theorem Sound.removeWithEdges (h : g.Sound) (hempty : g.listed id = []) :
    WithoutNode id g (g.removeWithEdges id) := by
  by_cases hid : id ∈ g.nodeIds
  · obtain ⟨c, hc⟩ := Option.isSome_iff_exists.1 (container?_isSome_iff.2 hid)
    have hstored : ∀ ref ∈ (g.nodeEdges? id none).getD [], ref.IsStored g.directed :=
      fun ref href => h.linked.isStored_of_mem_nodeEdges? href
    have hwithout := h.linked.foldl_removeEdge hstored
    set g₁ := ((g.nodeEdges? id none).getD []).foldl
      (fun g ref => g.removeEdge ref.source ref.target ref.name) g
    have hsound : g₁.Sound := ⟨h.nested.congr hwithout.nesting, hwithout.linked⟩
    have hc₁ : g₁.container? id = some c := (hwithout.nesting.container? id).trans hc
    have hempty₁ : g₁.listed id = [] := (hwithout.nesting.listed id).trans hempty
    -- what is still filed with the node is stale
    have hfree : ∀ key ref, g₁.Files id key ref → key ∉ g₁.edges.keys := by
      intro key ref hfiles hkey
      obtain ⟨hstored₁, rfl, hend⟩ := hwithout.linked.of_files id key ref hfiles
      have href := (hwithout.linked.mem_keys_iff hstored₁).1 hkey
      rw [hwithout.edgeRefs, List.mem_filter, decide_eq_true_iff] at href
      exact href.2 ((h.linked.mem_nodeEdges?_iff_hasEnd href.1).2 hend)
    have heq := removeNode_eq hsound.nested.compound hc₁ hempty₁ hfree
    have hsound' : (g₁.removeNode id).Sound :=
      ⟨nested_removeNode hsound hc₁ hempty₁ hfree, linked_removeNode hsound hc₁ hempty₁ hfree⟩
    refine ⟨hsound', ?_, ?_, ?_, fun x => ?_, ?_⟩
    · exact (congrArg Graph.directed heq).trans hwithout.directed
    · exact (congrArg Graph.multigraph heq).trans hwithout.multigraph
    · exact (nodeIds_removeNode hsound hc₁ hempty₁ hfree).trans (by rw [hwithout.nesting.nodeIds])
    · refine (container?_removeNode hsound hc₁ hempty₁ hfree x).trans ?_
      rw [hwithout.nesting.container?]
    · refine (congrArg (fun g => g.edges.entries) heq).trans (hwithout.entries.trans ?_)
      refine List.filter_congr fun e he => decide_eq_decide.2 (not_congr ?_)
      exact h.linked.mem_nodeEdges?_iff_hasEnd
        (mem_edgeRefs_of_get? (Table.mem_entries_iff.1 he))
  · rw [removeWithEdges_of_not_mem hid]
    exact h.withoutNode_self hid

/-- The edges that do not end at the node stay in their order. -/
theorem WithoutNode.edgeRefs (h : WithoutNode id g g') :
    g'.edgeRefs = g.edgeRefs.filter fun ref => ¬ ref.HasEnd id := by
  simp only [Graph.edgeRefs, Table.values, h.entries, List.map_map, List.filter_map]
  rfl

end ClusterGraph.Graph
