import ClusterGraph.Proofs.Graph.View
import Mathlib.Data.List.Nodup

/-!
# Edges and where they are filed

A graph is **linked** when its list of edges and what is filed with its nodes fit together: every
edge is listed under its own key and filed with both of its ends, and whatever is filed with a
node is an edge in stored form with that node as an end. The converse of the second half is not
claimed. In an undirected graph an edge is filed by the order in which its ends were given but
taken off by their stored order, so entries of edges that are gone may stay with a node.

The two changes to the list of edges are `Graph.addEdge`, which puts an edge last, and
`Graph.removeEdge`, which takes one out and leaves the others in place.
-/

namespace ClusterGraph.Graph

variable {g g' : Graph} {id key v w : String} {name : Option String} {ref : EdgeRef}

/-- The list of edges and the files of the nodes fit together. -/
structure Linked (g : Graph) : Prop where
  keys_eq : g.edges.keys = g.edgeRefs.map (EdgeRef.key g.directed)
  stored : ∀ ref ∈ g.edgeRefs, ref.IsStored g.directed
  filed : ∀ ref ∈ g.edgeRefs, ∀ id, ref.HasEnd id → g.Files id (ref.key g.directed) ref
  of_files : ∀ id key ref, g.Files id key ref →
    ref.IsStored g.directed ∧ key = ref.key g.directed ∧ ref.HasEnd id
  edgeCount_eq : g.edgeCount = g.edgeRefs.length

/-- Every edge is listed under its own key, read off the whole list or off one entry. -/
theorem keys_eq_iff : g.edges.keys = g.edgeRefs.map (EdgeRef.key g.directed) ↔
    ∀ e ∈ g.edges.entries, e.1 = e.2.ref.key g.directed := by
  simp only [Table.keys, edgeRefs, Table.values, List.map_map, List.map_inj_left,
    Function.comp_apply]

/-- What is stored about an edge is stored about an edge of the graph. -/
theorem mem_edgeRefs_of_get? {entry : EdgeEntry} (hentry : g.edges.get? key = some entry) :
    entry.ref ∈ g.edgeRefs :=
  List.mem_map_of_mem (Table.mem_values_iff.2 ⟨key, hentry⟩)

namespace Linked

/-- Nothing but the edges themselves is looked at. -/
theorem congr (h : g.Linked) (hsame : SameLinks g g') : g'.Linked where
  keys_eq := by rw [hsame.keys, hsame.edgeRefs, hsame.directed, h.keys_eq]
  stored := by rw [hsame.edgeRefs, hsame.directed]; exact h.stored
  filed ref href id hend := by
    rw [hsame.edgeRefs] at href
    rw [hsame.directed, hsame.files]
    exact h.filed ref href id hend
  of_files id key ref hfiles := by
    rw [hsame.directed]
    exact h.of_files id key ref ((hsame.files id key ref).1 hfiles)
  edgeCount_eq := by rw [hsame.edgeCount, hsame.edgeRefs, h.edgeCount_eq]

/-- The ends of an edge are nodes. -/
theorem mem_nodeIds (h : g.Linked) (href : ref ∈ g.edgeRefs) (hend : ref.HasEnd id) :
    id ∈ g.nodeIds :=
  (h.filed ref href id hend).mem_nodeIds

/-- No edge is listed twice. -/
theorem edgeRefs_nodup (h : g.Linked) : g.edgeRefs.Nodup :=
  List.Nodup.of_map _ (h.keys_eq ▸ g.edges.keys_nodup)

/-- An edge is stored under its own key. -/
theorem ref_key_of_get? (h : g.Linked) {entry : EdgeEntry}
    (hentry : g.edges.get? key = some entry) : key = entry.ref.key g.directed :=
  keys_eq_iff.1 h.keys_eq (key, entry) (Table.mem_entries_iff.2 hentry)

/-- A key is in use when the edge it belongs to is in the graph. -/
theorem mem_keys_iff (h : g.Linked) (hstored : ref.IsStored g.directed) :
    ref.key g.directed ∈ g.edges.keys ↔ ref ∈ g.edgeRefs := by
  rw [h.keys_eq, List.mem_map]
  constructor
  · rintro ⟨ref', href', hkey⟩
    exact (EdgeRef.key_inj (h.stored ref' href') hstored).1 hkey ▸ href'
  · exact fun href => ⟨ref, href, rfl⟩

/-- The entry under the key of an edge is the entry of that edge. -/
theorem ref_eq_of_get? (h : g.Linked) (hstored : ref.IsStored g.directed) {entry : EdgeEntry}
    (hentry : g.edges.get? (ref.key g.directed) = some entry) : entry.ref = ref :=
  ((EdgeRef.key_inj hstored (h.stored _ (mem_edgeRefs_of_get? hentry))).1
    (h.ref_key_of_get? hentry)).symm

/-- The graph knows its own edges. -/
theorem hasEdge_iff (h : g.Linked)
    (hstored : (EdgeRef.ofEnds g.directed v w name).IsStored g.directed) :
    g.hasEdge v w name = true ↔ EdgeRef.ofEnds g.directed v w name ∈ g.edgeRefs := by
  rw [← h.mem_keys_iff hstored, EdgeRef.key_ofEnds]
  exact Table.contains_iff

end Linked

/-! ### Filing one edge -/

/-- A change to the entry of a node that concerns what is filed under one key only, and files no
other edge than the given one there. -/
structure FilesOnly (f : NodeEntry → NodeEntry) (key : String) (ref : EdgeRef) : Prop where
  parent : ∀ entry, (f entry).parent = entry.parent
  other : ∀ entry k r, k ≠ key → ((f entry).Files k r ↔ entry.Files k r)
  of_files : ∀ entry r, (f entry).Files key r → entry.Files key r ∨ r = ref

/-- Files an edge as incoming. -/
def fileIncoming (key : String) (ref : EdgeRef) (entry : NodeEntry) : NodeEntry :=
  { entry with incoming := entry.incoming.insert key ref }

/-- Files an edge as outgoing. -/
def fileOutgoing (key : String) (ref : EdgeRef) (entry : NodeEntry) : NodeEntry :=
  { entry with outgoing := entry.outgoing.insert key ref }

/-- An edge that is filed as incoming is filed. -/
theorem files_fileIncoming (key : String) (ref : EdgeRef) (entry : NodeEntry) :
    (fileIncoming key ref entry).Files key ref :=
  .inl (by simp only [fileIncoming, Table.get?_insert, if_true])

/-- An edge that is filed as outgoing is filed. -/
theorem files_fileOutgoing (key : String) (ref : EdgeRef) (entry : NodeEntry) :
    (fileOutgoing key ref entry).Files key ref :=
  .inr (by simp only [fileOutgoing, Table.get?_insert, if_true])

/-- Takes an edge off the incoming ones. -/
def unfileIncoming (key : String) (entry : NodeEntry) : NodeEntry :=
  { entry with incoming := entry.incoming.erase key }

/-- Takes an edge off the outgoing ones. -/
def unfileOutgoing (key : String) (entry : NodeEntry) : NodeEntry :=
  { entry with outgoing := entry.outgoing.erase key }

/-- Filing one edge as incoming does not concern the others. -/
theorem filesOnly_fileIncoming (key : String) (ref : EdgeRef) :
    FilesOnly (fileIncoming key ref) key ref where
  parent _ := rfl
  other entry k r hk := by simp only [NodeEntry.Files, fileIncoming, Table.get?_insert, if_neg hk]
  of_files entry r := by
    simp only [NodeEntry.Files, fileIncoming, Table.get?_insert, if_true, Option.some.injEq]
    rintro (h | h)
    · exact .inr h.symm
    · exact .inl (.inr h)

/-- Filing one edge as outgoing does not concern the others. -/
theorem filesOnly_fileOutgoing (key : String) (ref : EdgeRef) :
    FilesOnly (fileOutgoing key ref) key ref where
  parent _ := rfl
  other entry k r hk := by simp only [NodeEntry.Files, fileOutgoing, Table.get?_insert, if_neg hk]
  of_files entry r := by
    simp only [NodeEntry.Files, fileOutgoing, Table.get?_insert, if_true, Option.some.injEq]
    rintro (h | h)
    · exact .inl (.inl h)
    · exact .inr h.symm

/-- Taking one edge from the incoming ones does not concern the others. -/
theorem filesOnly_unfileIncoming (key : String) (ref : EdgeRef) :
    FilesOnly (unfileIncoming key) key ref where
  parent _ := rfl
  other entry k r hk := by simp only [NodeEntry.Files, unfileIncoming, Table.get?_erase, if_neg hk]
  of_files entry r := by
    simp only [NodeEntry.Files, unfileIncoming, Table.get?_erase, if_true, reduceCtorEq, false_or]
    exact fun h => .inl (.inr h)

/-- Taking one edge from the outgoing ones does not concern the others. -/
theorem filesOnly_unfileOutgoing (key : String) (ref : EdgeRef) :
    FilesOnly (unfileOutgoing key) key ref where
  parent _ := rfl
  other entry k r hk := by simp only [NodeEntry.Files, unfileOutgoing, Table.get?_erase, if_neg hk]
  of_files entry r := by
    simp only [NodeEntry.Files, unfileOutgoing, Table.get?_erase, if_true, reduceCtorEq, or_false]
    exact fun h => .inl (.inl h)

section FilesOnly

variable {f : NodeEntry → NodeEntry} {node k : String} {r : EdgeRef}

/-- Under other keys the same edges are filed as before. -/
theorem FilesOnly.files_iff (hf : FilesOnly f key ref) (hk : k ≠ key) :
    (g.modifyEntry node f).Files id k r ↔ g.Files id k r := by
  rw [files_modifyEntry]
  by_cases h : id = node
  · simp only [if_pos h, hf.other _ k r hk, Files]
  · simp only [if_neg h, Files]

/-- Under the key itself nothing new is filed, but the one edge with the one node. -/
theorem FilesOnly.files_of_modifyEntry (hf : FilesOnly f key ref)
    (h : (g.modifyEntry node f).Files id key r) : g.Files id key r ∨ (id = node ∧ r = ref) := by
  rw [files_modifyEntry] at h
  obtain ⟨entry, hentry, hfiles⟩ := h
  by_cases hid : id = node
  · rw [if_pos hid] at hfiles
    rcases hf.of_files entry r hfiles with hfiles | hr
    · exact .inl ⟨entry, hentry, hfiles⟩
    · exact .inr ⟨hid, hr⟩
  · rw [if_neg hid] at hfiles
    exact .inl ⟨entry, hentry, hfiles⟩

/-- A change that files an edge in every entry files it with the node that is changed. -/
theorem files_modifyEntry_self (hid : id ∈ g.nodeIds) (hf : ∀ entry, (f entry).Files key ref) :
    (g.modifyEntry id f).Files id key ref := by
  obtain ⟨entry, hentry⟩ := Option.isSome_iff_exists.1 (Table.get?_isSome_iff.2 hid)
  exact (files_modifyEntry g id f id key ref).2 ⟨entry, hentry, by rw [if_pos rfl]; exact hf entry⟩

end FilesOnly

/-! ### Adding an edge -/

/-- The graph with an edge filed with its ends, as `addEdge` files it. -/
def fileEdge (g : Graph) (v w : String) (name : Option String) : Graph :=
  (g.modifyEntry w (fileIncoming (edgeKey g.directed v w name)
    (EdgeRef.ofEnds g.directed v w name))).modifyEntry v
      (fileOutgoing (edgeKey g.directed v w name) (EdgeRef.ofEnds g.directed v w name))

/-- A new edge is filed with both ends, listed and counted. -/
theorem addEdge_eq (g : Graph) (v w : String) (name : Option String) (label : EdgeLabel) :
    g.addEdge v w name label = { g.fileEdge v w name with
      edges := g.edges.insert (edgeKey g.directed v w name)
        ⟨EdgeRef.ofEnds g.directed v w name, label⟩
      edgeCount := g.edgeCount + 1 } := rfl

/-- A new edge does not concern the nesting. -/
theorem sameNesting_addEdge (g : Graph) (v w : String) (name : Option String) (label : EdgeLabel) :
    SameNesting g (g.addEdge v w name label) := by
  have hin := sameNesting_modifyEntry (filesOnly_fileIncoming (edgeKey g.directed v w name)
    (EdgeRef.ofEnds g.directed v w name)).parent g w
  have hout := hin.trans (sameNesting_modifyEntry
    (filesOnly_fileOutgoing (edgeKey g.directed v w name)
      (EdgeRef.ofEnds g.directed v w name)).parent _ v)
  exact ⟨hout.compound, hout.nodeIds, hout.container?, hout.listed, hout.nodeCount⟩

section AddEdge

variable {label : EdgeLabel} {k : String} {r : EdgeRef}

/-- Filing an edge changes nothing under other keys. -/
theorem files_fileEdge_iff (hk : k ≠ edgeKey g.directed v w name) :
    (g.fileEdge v w name).Files id k r ↔ g.Files id k r :=
  ((filesOnly_fileOutgoing _ _).files_iff hk).trans ((filesOnly_fileIncoming _ _).files_iff hk)

/-- What is filed under the key of a new edge was there before, or is that edge at one of its
ends. -/
theorem files_of_files_fileEdge
    (h : (g.fileEdge v w name).Files id (edgeKey g.directed v w name) r) :
    g.Files id (edgeKey g.directed v w name) r ∨
      r = EdgeRef.ofEnds g.directed v w name ∧ r.HasEnd id := by
  rcases (filesOnly_fileOutgoing _ _).files_of_modifyEntry h with h | ⟨hid, hr⟩
  · rcases (filesOnly_fileIncoming _ _).files_of_modifyEntry h with h | ⟨hid, hr⟩
    · exact .inl h
    · exact .inr ⟨hr, hr ▸ EdgeRef.hasEnd_ofEnds.2 (.inr hid.symm)⟩
  · exact .inr ⟨hr, hr ▸ EdgeRef.hasEnd_ofEnds.2 (.inl hid.symm)⟩

/-- A new edge is filed with both ends. -/
theorem files_fileEdge (hid : id ∈ g.nodeIds) (hend : v = id ∨ w = id) (name : Option String) :
    (g.fileEdge v w name).Files id (edgeKey g.directed v w name)
      (EdgeRef.ofEnds g.directed v w name) := by
  by_cases hv : id = v
  · subst hv
    refine files_modifyEntry_self ?_ (files_fileOutgoing _ _)
    rwa [(sameNesting_modifyEntry (filesOnly_fileIncoming _ _).parent g w).nodeIds]
  · obtain rfl : w = id := hend.resolve_left (Ne.symm hv)
    obtain ⟨entry, hentry, hfiles⟩ := files_modifyEntry_self hid
      (files_fileIncoming (edgeKey g.directed v w name) (EdgeRef.ofEnds g.directed v w name))
    refine (files_modifyEntry _ v _ w _ _).2 ⟨entry, hentry, ?_⟩
    rwa [if_neg hv]

variable (hnew : edgeKey g.directed v w name ∉ g.edges.keys) (label : EdgeLabel)

include hnew

/-- A new key stands behind all others. -/
theorem keys_addEdge : (g.addEdge v w name label).edges.keys =
    g.edges.keys ++ [edgeKey g.directed v w name] := by
  rw [addEdge_eq, Table.keys_insert, if_neg hnew]

/-- A new edge stands behind all others. -/
theorem edgeRefs_addEdge : (g.addEdge v w name label).edgeRefs =
    g.edgeRefs ++ [EdgeRef.ofEnds g.directed v w name] := by
  rw [addEdge_eq]
  simp only [edgeRefs, Table.values, Table.entries_insert hnew, List.map_append, List.map_cons,
    List.map_nil]

/-- A graph stays linked when an edge is added between two of its nodes: it is filed with its ends,
and the other edges, which have other keys, stay filed with theirs. -/
theorem Linked.addEdge (h : g.Linked) (hv : v ∈ g.nodeIds) (hw : w ∈ g.nodeIds)
    (hstored : (EdgeRef.ofEnds g.directed v w name).IsStored g.directed) :
    (g.addEdge v w name label).Linked := by
  refine ⟨?_, fun r hr => ?_, fun r hr id hend => ?_, fun id k r hfiles => ?_, ?_⟩
  · rw [keys_addEdge hnew, edgeRefs_addEdge hnew, h.keys_eq, List.map_append, List.map_cons,
      List.map_nil]
    congr 2
    exact (EdgeRef.key_ofEnds _ _ _ _).symm
  · rw [edgeRefs_addEdge hnew] at hr
    rcases List.mem_append.1 hr with hr | hr
    · exact h.stored r hr
    · exact List.mem_singleton.1 hr ▸ hstored
  · rw [edgeRefs_addEdge hnew] at hr
    change (g.fileEdge v w name).Files id (r.key g.directed) r
    rcases List.mem_append.1 hr with hr | hr
    · -- an older edge has another key, so its entries are left where they are
      have hk : r.key g.directed ≠ edgeKey g.directed v w name := by
        rintro hk
        exact hnew (hk ▸ (h.mem_keys_iff (h.stored r hr)).2 hr)
      exact (files_fileEdge_iff hk).2 (h.filed r hr id hend)
    · obtain rfl := List.mem_singleton.1 hr
      have hend' := EdgeRef.hasEnd_ofEnds.1 hend
      have hid : id ∈ g.nodeIds := by
        rcases hend' with rfl | rfl
        · exact hv
        · exact hw
      rw [EdgeRef.key_ofEnds]
      exact files_fileEdge hid hend' name
  · change (g.fileEdge v w name).Files id k r at hfiles
    by_cases hk : k = edgeKey g.directed v w name
    · -- an older entry under the key names the same edge, since keys tell edges apart
      subst hk
      rcases files_of_files_fileEdge hfiles with hfiles | ⟨rfl, hend⟩
      · exact h.of_files id _ r hfiles
      · exact ⟨hstored, (EdgeRef.key_ofEnds _ _ _ _).symm, hend⟩
    · exact h.of_files id k r ((files_fileEdge_iff hk).1 hfiles)
  · rw [edgeRefs_addEdge hnew, List.length_append, ← h.edgeCount_eq]
    rfl

end AddEdge

/-! ### Removing an edge -/

/-- The graph with an edge taken off its ends as they are stored. -/
def unfileEdge (g : Graph) (key : String) (ref : EdgeRef) : Graph :=
  (g.modifyEntry ref.target (unfileIncoming key)).modifyEntry ref.source (unfileOutgoing key)

/-- Taking an edge from its ends does not concern the nesting. -/
theorem sameNesting_unfileEdge (g : Graph) (key : String) (ref : EdgeRef) :
    SameNesting g (g.unfileEdge key ref) :=
  (sameNesting_modifyEntry (filesOnly_unfileIncoming key ref).parent g ref.target).trans
    (sameNesting_modifyEntry (filesOnly_unfileOutgoing key ref).parent _ ref.source)

/-- Taking an edge from its ends changes nothing under other keys. -/
theorem files_unfileEdge_iff {k : String} {r : EdgeRef} (hk : k ≠ key) :
    (g.unfileEdge key ref).Files id k r ↔ g.Files id k r :=
  ((filesOnly_unfileOutgoing key ref).files_iff hk).trans
    ((filesOnly_unfileIncoming key ref).files_iff hk)

/-- Under the key itself nothing new is filed, but the one edge with its ends. -/
theorem files_of_files_unfileEdge {r : EdgeRef} (h : (g.unfileEdge key ref).Files id key r) :
    g.Files id key r ∨ r = ref ∧ r.HasEnd id := by
  rcases (filesOnly_unfileOutgoing key ref).files_of_modifyEntry h with h | ⟨hid, hr⟩
  · rcases (filesOnly_unfileIncoming key ref).files_of_modifyEntry h with h | ⟨hid, hr⟩
    · exact .inl h
    · exact .inr ⟨hr, hr ▸ .inr hid.symm⟩
  · exact .inr ⟨hr, hr ▸ .inl hid.symm⟩

/-- To remove a missing edge is to do nothing. -/
theorem removeEdge_of_not_mem (h : edgeKey g.directed v w name ∉ g.edges.keys) :
    g.removeEdge v w name = g := by
  simp only [removeEdge, Table.get?_eq_none_iff.2 h]

/-- An edge that is removed is taken from both ends and from the list, and is not counted any more.
-/
theorem removeEdge_of_get? {entry : EdgeEntry}
    (hentry : g.edges.get? (edgeKey g.directed v w name) = some entry) :
    g.removeEdge v w name = { g.unfileEdge (edgeKey g.directed v w name) entry.ref with
      edges := g.edges.erase (edgeKey g.directed v w name)
      edgeCount := g.edgeCount - 1 } := by
  simp only [removeEdge, hentry]
  rfl

/-- What is left of a graph when some edges are taken out, the others with their labels in their
places. -/
structure Without (refs : List EdgeRef) (g g' : Graph) : Prop where
  linked : g'.Linked
  nesting : SameNesting g g'
  directed : g'.directed = g.directed
  multigraph : g'.multigraph = g.multigraph
  entries : g'.edges.entries = g.edges.entries.filter fun entry => entry.2.ref ∉ refs

/-- The edges that are left stand in the same order. -/
theorem Without.edgeRefs {refs : List EdgeRef} (h : Without refs g g') :
    g'.edgeRefs = g.edgeRefs.filter fun ref => ref ∉ refs := by
  simp only [Graph.edgeRefs, Table.values, h.entries, List.map_map, List.filter_map]
  rfl

namespace Linked

/-- The entries that are left when the key of an edge is erased. -/
private theorem entries_erase_key (h : g.Linked) (hstored : ref.IsStored g.directed) :
    (g.edges.erase (ref.key g.directed)).entries =
      g.edges.entries.filter fun entry => entry.2.ref ∉ [ref] := by
  rw [Table.entries_erase]
  refine List.filter_congr fun e he => ?_
  have hentry := Table.mem_entries_iff.1 he
  simp only [List.mem_singleton, decide_eq_decide, Ne, not_iff_not]
  rw [h.ref_key_of_get? hentry]
  exact EdgeRef.key_inj (h.stored _ (mem_edgeRefs_of_get? hentry)) hstored

section RemoveEdge

variable (h : g.Linked) (hstored : ref.IsStored g.directed) (href : ref ∈ g.edgeRefs)

include h hstored href

/-- Removing an edge that is listed, with every table written out. -/
theorem removeEdge_eq : g.removeEdge ref.source ref.target ref.name =
    { g.unfileEdge (ref.key g.directed) ref with
      edges := g.edges.erase (ref.key g.directed)
      edgeCount := g.edgeCount - 1 } := by
  obtain ⟨entry, hentry⟩ := Option.isSome_iff_exists.1
    (Table.get?_isSome_iff.2 ((h.mem_keys_iff hstored).2 href))
  rw [removeEdge_of_get? hentry, h.ref_eq_of_get? hstored hentry]
  rfl

/-- One edge is removed, and the others stay in the same order. -/
theorem edgeRefs_removeEdge : (g.removeEdge ref.source ref.target ref.name).edgeRefs =
    g.edgeRefs.filter fun r => r ∉ [ref] := by
  rw [h.removeEdge_eq hstored href]
  simp only [edgeRefs, Table.values, h.entries_erase_key hstored, List.map_map, List.filter_map]
  rfl

/-- A graph stays linked when an edge is removed: nothing is filed under its key any more. -/
private theorem linked_removeEdge : (g.removeEdge ref.source ref.target ref.name).Linked := by
  have heq := h.removeEdge_eq hstored href
  have hrefs := h.edgeRefs_removeEdge hstored href
  rw [heq] at hrefs ⊢
  refine ⟨keys_eq_iff.2 fun e he => ?_, fun r hr => ?_, fun r hr id hend => ?_,
    fun id k r hfiles => ?_, ?_⟩
  · change e ∈ (g.edges.erase (ref.key g.directed)).entries at he
    rw [h.entries_erase_key hstored] at he
    exact h.ref_key_of_get? (Table.mem_entries_iff.1 (List.mem_of_mem_filter he))
  · rw [hrefs] at hr
    exact h.stored r (List.mem_of_mem_filter hr)
  · rw [hrefs, List.mem_filter] at hr
    have hk : r.key g.directed ≠ ref.key g.directed := fun hk =>
      (of_decide_eq_true hr.2) (List.mem_singleton.2
        ((EdgeRef.key_inj (h.stored r hr.1) hstored).1 hk))
    exact (files_unfileEdge_iff hk).2 (h.filed r hr.1 id hend)
  · change (g.unfileEdge (ref.key g.directed) ref).Files id k r at hfiles
    by_cases hk : k = ref.key g.directed
    · -- the entry may stay where the ends were given in the other order
      subst hk
      rcases files_of_files_unfileEdge hfiles with hfiles | ⟨rfl, hend⟩
      · exact h.of_files id _ r hfiles
      · exact ⟨hstored, rfl, hend⟩
    · exact h.of_files id k r ((files_unfileEdge_iff hk).1 hfiles)
  · have herase : g.edgeRefs.erase ref = g.edgeRefs.filter fun r => r ∉ [ref] := by
      rw [erase_eq_filter_ne h.edgeRefs_nodup]
      simp only [List.mem_singleton]
    rw [hrefs, ← herase, List.length_erase_of_mem href, ← h.edgeCount_eq]

end RemoveEdge

/-- Removing an edge takes out that edge and no other, wherever it is filed. -/
theorem removeEdge (h : g.Linked) (hstored : ref.IsStored g.directed) :
    Without [ref] g (g.removeEdge ref.source ref.target ref.name) := by
  by_cases href : ref ∈ g.edgeRefs
  · have hlinked := h.linked_removeEdge hstored href
    have hnesting := sameNesting_unfileEdge g (ref.key g.directed) ref
    rw [h.removeEdge_eq hstored href] at hlinked ⊢
    exact ⟨hlinked, ⟨hnesting.compound, hnesting.nodeIds, hnesting.container?, hnesting.listed,
      hnesting.nodeCount⟩, rfl, rfl, h.entries_erase_key hstored⟩
  · have hkey := fun hmem => href ((h.mem_keys_iff hstored).1 hmem)
    rw [removeEdge_of_not_mem hkey]
    refine ⟨h, .refl g, rfl, rfl, (List.filter_eq_self.2 fun e he => ?_).symm⟩
    have hmem := mem_edgeRefs_of_get? (Table.mem_entries_iff.1 he)
    simp only [List.mem_singleton, decide_not, Bool.not_eq_true', decide_eq_false_iff_not]
    exact fun e => href (e ▸ hmem)

/-- Removing edges one after another takes out those edges and no other. -/
theorem foldl_removeEdge (h : g.Linked) {refs : List EdgeRef}
    (hstored : ∀ ref ∈ refs, ref.IsStored g.directed) :
    Without refs g
      (refs.foldl (fun g ref => g.removeEdge ref.source ref.target ref.name) g) := by
  induction refs generalizing g with
  | nil => exact ⟨h, .refl g, rfl, rfl, by simp⟩
  | cons ref refs ih =>
    have hfirst := h.removeEdge (hstored ref List.mem_cons_self)
    have hrest := ih hfirst.linked fun r hr => by
      rw [hfirst.directed]
      exact hstored r (List.mem_cons_of_mem _ hr)
    refine ⟨hrest.linked, hfirst.nesting.trans hrest.nesting,
      hrest.directed.trans hfirst.directed, hrest.multigraph.trans hfirst.multigraph, ?_⟩
    rw [List.foldl_cons, hrest.entries, hfirst.entries, List.filter_filter]
    refine List.filter_congr fun e _ => ?_
    simp only [List.mem_cons, List.not_mem_nil, or_false, not_or, Bool.decide_and, Bool.and_comm]

end Linked

end ClusterGraph.Graph
