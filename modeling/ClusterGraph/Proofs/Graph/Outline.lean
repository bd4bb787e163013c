import ClusterGraph.Proofs.Graph.Growth
import ClusterGraph.Snapshot

/-!
# Outlines of graphs

The **outline** of a graph is all that can be seen of it: its kind, its own label, its nodes with
their parents and labels, and its edges with their labels, in order. What is filed with the nodes
and how members are listed is left out, since on a sound graph it follows from the rest or never
shows. Each operation of a graph is one equation between outlines, and the snapshot of a sound
graph is a function of its outline (`Graph.Sound.snapshot_eq`).
-/

namespace ClusterGraph

/-! ### Lists of nodes -/

/-- A node as it is seen in a graph. -/
structure NodeRow where
  id : String
  parent : Option String
  label : PlacedLabel

namespace NodeRow

/-- Moves the node with a given id into another one, or to the top. -/
def moveTo (id : String) (parent : Option String) (row : NodeRow) : NodeRow :=
  if row.id = id then { row with parent := parent } else row

/-- Changes the label of the node with a given id. -/
def relabel (id : String) (f : PlacedLabel → PlacedLabel) (row : NodeRow) : NodeRow :=
  if row.id = id then { row with label := f row.label } else row

@[simp] theorem id_moveTo (id : String) (parent : Option String) (row : NodeRow) :
    (row.moveTo id parent).id = row.id := by
  rw [moveTo]
  split <;> rfl

@[simp] theorem id_relabel (id : String) (f : PlacedLabel → PlacedLabel) (row : NodeRow) :
    (row.relabel id f).id = row.id := by
  rw [relabel]
  split <;> rfl

end NodeRow

/-- The nodes of a graph in order. -/
abbrev Rows := List NodeRow

namespace Rows

/-- The ids of the nodes. -/
def ids (rows : Rows) : List String := rows.map NodeRow.id

/-- The nodes whose parent is a given one. -/
def members (rows : Rows) (p : String) : List String :=
  (rows.filter fun row => row.parent = some p).map NodeRow.id

/-- Puts a node behind the others. -/
def add (rows : Rows) (id : String) (parent : Option String) (label : PlacedLabel) : Rows :=
  rows ++ [⟨id, parent, label⟩]

/-- Adds a node that is missing, at the top and without attributes. -/
def supply (rows : Rows) (id : String) : Rows :=
  if id ∈ rows.ids then rows else rows.add id none (PlacedLabel.ofAttrs Attrs.empty)

/-- Adds a node in a scope, or at the top when it would lie in itself. -/
def place (rows : Rows) (id : String) (scope : Option String) (label : PlacedLabel) : Rows :=
  match scope with
  | none => rows.add id none label
  | some c => if c = id then rows.add id none label else (rows.add id (some c) label).supply c

/-- Moves a node into another one, or to the top. -/
def moveTo (rows : Rows) (id : String) (parent : Option String) : Rows :=
  rows.map (NodeRow.moveTo id parent)

/-- Changes the label of a node. -/
def relabel (rows : Rows) (id : String) (f : PlacedLabel → PlacedLabel) : Rows :=
  rows.map (NodeRow.relabel id f)

/-- Takes a node out. -/
def remove (rows : Rows) (id : String) : Rows := rows.filter fun row => row.id ≠ id

variable {rows : Rows} {id c : String} {parent : Option String} {label : PlacedLabel}

/-- A node is added behind the others. -/
theorem ids_add : (rows.add id parent label).ids = rows.ids ++ [id] := by
  rw [ids, add, List.map_append]
  rfl

/-- A node that is there need not be supplied. -/
theorem supply_of_mem (h : id ∈ rows.ids) : rows.supply id = rows := if_pos h

/-- Labels have no part in the ids. -/
theorem ids_relabel (f : PlacedLabel → PlacedLabel) : (rows.relabel id f).ids = rows.ids := by
  simp only [ids, relabel, List.map_map]
  exact List.map_congr_left fun row _ => NodeRow.id_relabel id f row

/-- A node that is moved keeps its place in the list. -/
theorem ids_moveTo : (rows.moveTo id parent).ids = rows.ids := by
  simp only [ids, moveTo, List.map_map]
  exact List.map_congr_left fun row _ => NodeRow.id_moveTo id parent row

/-- Where a node is not there, a change that concerns this node only changes nothing. -/
theorem map_eq_self {f : NodeRow → NodeRow} (hf : ∀ row, row.id ≠ id → f row = row)
    (h : id ∉ rows.ids) : rows.map f = rows := by
  refine (List.map_congr_left fun row hrow => hf row ?_).trans (List.map_id _)
  rintro rfl
  exact h (List.mem_map_of_mem hrow)

/-- Nothing is changed when the node is missing. -/
theorem relabel_of_not_mem (h : id ∉ rows.ids) (f : PlacedLabel → PlacedLabel) :
    rows.relabel id f = rows :=
  map_eq_self (fun _ hne => if_neg hne) h

/-- Nothing is moved when the node is missing. -/
theorem moveTo_of_not_mem (h : id ∉ rows.ids) : rows.moveTo id parent = rows :=
  map_eq_self (fun _ hne => if_neg hne) h

/-- A node that has just been added may as well have been added elsewhere. -/
theorem moveTo_add (h : id ∉ rows.ids) (parent' : Option String) :
    (rows.add id parent' label).moveTo id parent = rows.add id parent label := by
  have hold : rows.map (NodeRow.moveTo id parent) = rows := moveTo_of_not_mem h
  simp only [moveTo, add, List.map_append, hold, List.map_cons, List.map_nil, NodeRow.moveTo,
    if_true]

/-- Another node can be supplied before a node is moved, or after. -/
theorem moveTo_supply (hne : c ≠ id) :
    (rows.supply c).moveTo id parent = (rows.moveTo id parent).supply c := by
  rw [supply, supply, ids_moveTo]
  split
  · rfl
  · simp only [moveTo, add, List.map_append, List.map_cons, List.map_nil, NodeRow.moveTo,
      if_neg hne]

end Rows

/-! ### Outlines -/

/-- Changes the label of a given edge. -/
def EdgeEntry.relabel (ref : EdgeRef) (f : EdgeLabel → EdgeLabel) (edge : EdgeEntry) : EdgeEntry :=
  if edge.ref = ref then { edge with label := f edge.label } else edge

@[simp] theorem EdgeEntry.ref_relabel (ref : EdgeRef) (f : EdgeLabel → EdgeLabel)
    (edge : EdgeEntry) : (edge.relabel ref f).ref = edge.ref := by
  rw [relabel]
  split <;> rfl

/-- What can be seen of a graph. -/
@[ext]
structure Outline where
  directed : Bool
  multigraph : Bool
  label : PlacedLabel
  nodes : Rows
  edges : List EdgeEntry

namespace Outline

/-- The edges without their labels, in order. -/
def refs (o : Outline) : List EdgeRef := o.edges.map EdgeEntry.ref

/-- The snapshot that shows an outline. -/
def snapshot (o : Outline) : Snapshot where
  directed := o.directed
  multigraph := o.multigraph
  compound := true
  label := o.label
  nodes := o.nodes.map fun row =>
    ⟨row.id, row.parent, o.nodes.members row.id, row.label.attrs, row.label.geometry⟩
  edges := o.edges.map fun edge =>
    ⟨edge.ref.source, edge.ref.target, edge.ref.name, edge.label.attrs, edge.label.points⟩

/-- Changes the label of the node of a scope, or of the graph itself. -/
def relabel (o : Outline) (scope : Option String) (f : PlacedLabel → PlacedLabel) : Outline :=
  match scope with
  | none => { o with label := f o.label }
  | some id => { o with nodes := o.nodes.relabel id f }

/-- Puts an edge behind the others; ends that are missing are added. -/
def addEdge (o : Outline) (v w : String) (name : Option String) (label : EdgeLabel) : Outline :=
  { o with
    nodes := (o.nodes.supply v).supply w
    edges := o.edges ++ [⟨EdgeRef.ofEnds o.directed v w name, label⟩] }

/-- Changes the label of an edge. -/
def relabelEdge (o : Outline) (ref : EdgeRef) (f : EdgeLabel → EdgeLabel) : Outline :=
  { o with edges := o.edges.map (EdgeEntry.relabel ref f) }

/-- Changes the label of an edge, which is added with a given label when it is missing. -/
def link (o : Outline) (v w : String) (name : Option String) (label : EdgeLabel)
    (f : EdgeLabel → EdgeLabel) : Outline :=
  let ref := EdgeRef.ofEnds o.directed v w name
  if ref ∈ o.refs then o.relabelEdge ref f else o.addEdge v w name (f label)

/-- Takes out a node and the edges that have it as an end. -/
def removeNode (o : Outline) (id : String) : Outline :=
  { o with
    nodes := o.nodes.remove id
    edges := o.edges.filter fun edge => ¬ edge.ref.HasEnd id }

/-- Takes out a node that has no members. -/
def elide (o : Outline) (id : String) : Outline :=
  if o.nodes.members id = [] then o.removeNode id else o

section Link

variable (o : Outline) {v w : String} {name : Option String} (label : EdgeLabel)
  (f : EdgeLabel → EdgeLabel)

/-- An edge that is there is changed. -/
theorem link_of_mem (h : EdgeRef.ofEnds o.directed v w name ∈ o.refs) :
    o.link v w name label f = o.relabelEdge (EdgeRef.ofEnds o.directed v w name) f :=
  if_pos h

/-- An edge that is missing is added, with the change made to its first label. -/
theorem link_of_not_mem (h : EdgeRef.ofEnds o.directed v w name ∉ o.refs) :
    o.link v w name label f = o.addEdge v w name (f label) :=
  if_neg h

/-- Labels have no part in the ends and names of edges. -/
theorem refs_relabelEdge (ref : EdgeRef) : (o.relabelEdge ref f).refs = o.refs := by
  rw [refs, relabelEdge, List.map_map]
  exact List.map_congr_left fun edge _ => EdgeEntry.ref_relabel ref f edge

/-- A link puts its edge behind the others, unless it is there already. -/
theorem refs_link : (o.link v w name label f).refs =
    if EdgeRef.ofEnds o.directed v w name ∈ o.refs then o.refs
    else o.refs ++ [EdgeRef.ofEnds o.directed v w name] := by
  split
  · next h => rw [o.link_of_mem label f h, refs_relabelEdge]
  · next h => rw [o.link_of_not_mem label f h, refs, addEdge, List.map_append]; rfl

end Link

end Outline

namespace Graph

variable {g g' : Graph} {id c v w : String} {name : Option String} {label : PlacedLabel}

/-- What a node lies in, if it is not the graph itself. -/
def inside (container : String) : Option String :=
  if container = rootId then none else some container

/-- What can be seen of the entry of a node. -/
def row (id : String) (entry : NodeEntry) : NodeRow := ⟨id, inside entry.parent, entry.label⟩

/-- What can be seen of a graph. -/
def outline (g : Graph) : Outline where
  directed := g.directed
  multigraph := g.multigraph
  label := g.label
  nodes := g.nodes.entries.map fun entry => row entry.1 entry.2
  edges := g.edges.values

/-- An outline has the nodes of the graph in their order. -/
theorem ids_outline (g : Graph) : g.outline.nodes.ids = g.nodeIds := by
  simp only [Rows.ids, outline, List.map_map]
  rfl

/-- An outline has the edges of the graph in their order. -/
theorem refs_outline (g : Graph) : g.outline.refs = g.edgeRefs := rfl

/-- The nodes that are seen are those that are found under their ids. -/
theorem mem_nodes_outline {row : NodeRow} : row ∈ g.outline.nodes ↔
    ∃ entry, g.nodes.get? row.id = some entry ∧ Graph.row row.id entry = row := by
  simp only [outline, List.mem_map, Prod.exists]
  constructor
  · rintro ⟨id, entry, hentry, rfl⟩
    exact ⟨entry, Table.mem_entries_iff.1 hentry, rfl⟩
  · rintro ⟨entry, hentry, hrow⟩
    exact ⟨row.id, entry, Table.mem_entries_iff.2 hentry, hrow⟩

/-- The row of a node tells its parent. -/
theorem parent?_of_mem {row : NodeRow} (h : g.compound = true) (hrow : row ∈ g.outline.nodes) :
    g.parent? row.id = row.parent := by
  obtain ⟨entry, hentry, heq⟩ := mem_nodes_outline.1 hrow
  have hparent : inside entry.parent = row.parent := congrArg NodeRow.parent heq
  rw [parent?, if_pos h, hentry, Option.bind_some, ← hparent, inside]

/-- The row of a node tells its label. -/
theorem node?_of_mem {row : NodeRow} (hrow : row ∈ g.outline.nodes) :
    g.node? row.id = some row.label := by
  obtain ⟨entry, hentry, heq⟩ := mem_nodes_outline.1 hrow
  rw [node?, hentry, Option.map_some, ← heq]
  rfl

/-- The members of a node are those whose parent it is, and those of the graph itself have none. -/
theorem Nested.children_eq_filter (h : g.Nested) (p : String) :
    g.children p = (g.outline.nodes.filter fun row => row.parent = inside p).map NodeRow.id := by
  have hlisted : g.listed p = g.nodeIds.filter fun x => g.container? x = some p := h.listed_eq p
  have hinside : ∀ parent, inside parent = inside p ↔ parent = p := by
    intro parent
    simp only [inside]
    split <;> split <;> simp_all [eq_comm]
  have hentries : ∀ entry ∈ g.nodes.entries,
      decide (g.container? entry.1 = some p) =
        decide ((row entry.1 entry.2).parent = inside p) := by
    intro entry hentry
    have hget : g.nodes.get? entry.1 = some entry.2 := Table.mem_entries_iff.1 hentry
    rw [container?, hget, Option.map_some]
    simp only [row, hinside, Option.some.injEq]
  rw [children_eq_listed h.compound, hlisted, nodeIds, Table.keys, outline,
    List.filter_map, List.filter_map, List.map_map]
  congr 1
  exact List.filter_congr hentries

/-- The members of a node are those whose parent it is. -/
theorem Nested.children_eq (h : g.Nested) (hid : id ≠ rootId) :
    g.children id = g.outline.nodes.members id := by
  rw [h.children_eq_filter, inside, if_neg hid]
  rfl

/-- The snapshot of a sound graph shows its outline. -/
theorem Sound.snapshot_eq (h : g.Sound) : g.snapshot = g.outline.snapshot := by
  have hnodes : g.snapshot.nodes = g.outline.snapshot.nodes := by
    simp only [snapshot, Outline.snapshot, nodeIds, Table.keys, outline, List.map_map,
      List.filterMap_map]
    rw [← List.filterMap_eq_map]
    refine List.filterMap_congr fun entry hentry => ?_
    -- the snapshot looks each node up again, which finds the entry at hand
    have hget : g.nodes.get? entry.1 = some entry.2 := Table.mem_entries_iff.1 hentry
    have hrow : row entry.1 entry.2 ∈ g.outline.nodes := mem_nodes_outline.2 ⟨entry.2, hget, rfl⟩
    have hid : entry.1 ≠ rootId := h.nested.ne_rootId (mem_nodeIds_of_get? hget)
    have hlabel : g.node? entry.1 = some entry.2.label := node?_of_mem hrow
    have hparent : g.parent? entry.1 = inside entry.2.parent :=
      parent?_of_mem h.nested.compound hrow
    simp only [Function.comp_apply, hlabel, hparent, h.nested.children_eq hid, Option.map_some]
    rfl
  have hedges : g.snapshot.edges = g.outline.snapshot.edges := by
    simp only [snapshot, Outline.snapshot, edgeRefs, Table.values, outline, List.map_map,
      List.filterMap_map]
    rw [← List.filterMap_eq_map]
    refine List.filterMap_congr fun entry hentry => ?_
    -- the look-up of an edge goes by its ends and its name, which make up the key of the entry
    have hget : g.edges.get? entry.1 = some entry.2 := Table.mem_entries_iff.1 hentry
    have hkey : entry.1 = entry.2.ref.key g.directed := h.linked.ref_key_of_get? hget
    have hlabel : g.edge? entry.2.ref.source entry.2.ref.target entry.2.ref.name =
        some entry.2.label := by
      rw [hkey] at hget
      exact congrArg (Option.map EdgeEntry.label) hget
    simp only [Function.comp_apply, hlabel, Option.map_some]
  have hcompound : g.snapshot.compound = g.outline.snapshot.compound := h.nested.compound
  rw [Snapshot.mk.injEq]
  exact ⟨rfl, rfl, hcompound, rfl, hnodes, hedges⟩

/-- Sound graphs with the same outline show the same, list the same members and count the same
nodes and edges. -/
theorem Sound.looks_eq (h : g.Sound) (h' : g'.Sound) (houtline : g'.outline = g.outline) :
    g'.snapshot = g.snapshot ∧ (∀ x, g'.children x = g.children x) ∧
      g'.nodeCount = g.nodeCount ∧ g'.edgeCount = g.edgeCount := by
  refine ⟨?_, fun x => ?_, ?_, ?_⟩
  · rw [h'.snapshot_eq, houtline, h.snapshot_eq]
  · rw [h'.nested.children_eq_filter, houtline, h.nested.children_eq_filter]
  · rw [h'.nested.nodeCount_eq, ← ids_outline, houtline, ids_outline, h.nested.nodeCount_eq]
  · rw [h'.linked.edgeCount_eq, ← refs_outline, houtline, refs_outline, h.linked.edgeCount_eq]

/-! ### Operations on nodes -/

/-- A change of an entry that cannot be seen. -/
theorem outline_modifyEntry_self {f : NodeEntry → NodeEntry}
    (hf : ∀ id entry, row id (f entry) = row id entry) (g : Graph) (node : String) :
    (g.modifyEntry node f).outline = g.outline := by
  simp only [outline, modifyEntry, Table.entries_modify, List.map_map, Outline.mk.injEq, true_and,
    and_true]
  refine List.map_congr_left fun entry _ => ?_
  simp only [Function.comp_apply]
  split
  · exact hf entry.1 entry.2
  · rfl

/-- A change to the label of a node is seen in its row. -/
theorem outline_modifyNode (g : Graph) (id : String) (f : PlacedLabel → PlacedLabel) :
    (g.modifyNode id f).outline = { g.outline with nodes := g.outline.nodes.relabel id f } := by
  simp only [outline, modifyNode, Rows.relabel, Table.entries_modify, List.map_map,
    Outline.mk.injEq, true_and, and_true]
  refine List.map_congr_left fun entry _ => ?_
  simp only [Function.comp_apply, NodeRow.relabel, row]
  split <;> rfl

/-- A new node is seen as one more row, at the top. -/
theorem Nested.outline_addNode (h : g.Nested) (hid : id ∉ g.nodeIds) (hplain : IsPlain id)
    (label : PlacedLabel) : (g.addNode id label).outline =
      { g.outline with nodes := g.outline.nodes.add id none label } := by
  rw [addNode_eq h.compound hplain.ne_rootId (h.not_mem_listed hid _)]
  simp only [outline, Rows.add, Table.entries_insert hid, List.map_append, List.map_cons,
    List.map_nil]
  rfl

/-- A node that is made sure of is seen as one more row, if it is new. -/
theorem Nested.outline_setNode (h : g.Nested) (hplain : IsPlain id) :
    (g.setNode id none).outline = { g.outline with nodes := g.outline.nodes.supply id } := by
  rw [Rows.supply, ids_outline]
  split
  · next hid => rw [setNode_none_of_mem hid]
  · next hid => rw [setNode_none_of_not_mem hid, h.outline_addNode hid hplain]

/-- Moving a node changes its parent and nothing else. -/
theorem outline_moveTo (g : Graph) (id c : String) : (g.moveTo id c).outline =
    { g.outline with nodes := g.outline.nodes.moveTo id (inside c) } := by
  cases hget : g.nodes.get? id with
  | none =>
    have hid : id ∉ g.outline.nodes.ids := by
      rw [ids_outline]
      exact Table.get?_eq_none_iff.1 hget
    rw [Rows.moveTo_of_not_mem hid]
    simp only [moveTo, hget]
  | some entry =>
    simp only [moveTo, hget, outline, Rows.moveTo, addMember, dropMember, Table.entries_modify,
      List.map_map, Outline.mk.injEq, true_and, and_true]
    refine List.map_congr_left fun entry _ => ?_
    simp only [Function.comp_apply, NodeRow.moveTo, row]
    split <;> rfl

/-- Nesting a node that has just been added. -/
theorem Sound.outline_nest_addNode (h : g.Sound) (hid : id ∉ g.nodeIds) (hplain : IsPlain id)
    (hc : IsPlain c) (hne : c ≠ id) (label : PlacedLabel) :
    ((g.addNode id label).nest id c).outline =
      { g.outline with nodes := g.outline.nodes.place id (some c) label } := by
  have hadded : (g.addNode id label).Nested := h.nested.addNode hid hplain label
  have hinside : inside c = some c := if_neg hc.ne_rootId
  have hnew : id ∉ g.outline.nodes.ids := by rwa [ids_outline]
  have hrows : ((g.outline.nodes.add id none label).supply c).moveTo id (some c) =
      g.outline.nodes.place id (some c) label := by
    rw [Rows.moveTo_supply hne, Rows.moveTo_add hnew, Rows.place, if_neg hne]
  rw [nest, outline_moveTo, hinside, hadded.outline_setNode hc, h.nested.outline_addNode hid hplain,
    hrows]

/-! ### Operations on edges -/

/-- A new edge is seen behind the others, and no node changes. -/
theorem outline_addEdge_of_not_mem (hnew : edgeKey g.directed v w name ∉ g.edges.keys)
    (label : EdgeLabel) : (g.addEdge v w name label).outline = { g.outline with
      edges := g.outline.edges ++ [⟨EdgeRef.ofEnds g.directed v w name, label⟩] } := by
  have hfile : (g.fileEdge v w name).outline.nodes = g.outline.nodes := by
    rw [fileEdge, outline_modifyEntry_self, outline_modifyEntry_self]
    · exact fun _ _ => rfl
    · exact fun _ _ => rfl
  simp only [addEdge_eq, outline, Outline.mk.injEq, Table.values, Table.entries_insert hnew,
    List.map_append, List.map_cons, List.map_nil, and_true]
  exact ⟨rfl, rfl, rfl, hfile⟩

/-- Changing the label of an edge changes no other edge. -/
theorem Linked.outline_modifyEdge (h : g.Linked)
    (hstored : (EdgeRef.ofEnds g.directed v w name).IsStored g.directed)
    (f : EdgeLabel → EdgeLabel) : (g.modifyEdge v w name f).outline =
      g.outline.relabelEdge (EdgeRef.ofEnds g.directed v w name) f := by
  simp only [outline, modifyEdge, Outline.relabelEdge, Table.values, Table.entries_modify,
    List.map_map, Outline.mk.injEq, true_and]
  refine List.map_congr_left fun entry hentry => ?_
  have hget := Table.mem_entries_iff.1 hentry
  have hkey : entry.1 = edgeKey g.directed v w name ↔
      entry.2.ref = EdgeRef.ofEnds g.directed v w name := by
    rw [h.ref_key_of_get? hget, ← EdgeRef.key_ofEnds]
    exact EdgeRef.key_inj (h.stored _ (mem_edgeRefs_of_get? hget)) hstored
  simp only [Function.comp_apply, EdgeEntry.relabel, hkey]

/-- Setting an edge that is not there yet, and then changing its label. -/
theorem Sound.outline_setEdge (h : g.Sound) (hv : IsPlain v) (hw : IsPlain w)
    (hname : name ≠ some rootId) (hnew : g.hasEdge v w name = false) (label : EdgeLabel)
    (f : EdgeLabel → EdgeLabel) :
    ((((g.setNode v none).setNode w none).addEdge v w name label).modifyEdge v w name f).outline =
      g.outline.addEdge v w name (f label) := by
  have hends : Grown g (g.setNode v none) := h.setNode hv
  have hgrown : Grown g ((g.setNode v none).setNode w none) :=
    hends.trans (hends.sound.setNode hw)
  have houtline : ((g.setNode v none).setNode w none).outline =
      { g.outline with nodes := (g.outline.nodes.supply v).supply w } := by
    rw [hends.sound.nested.outline_setNode hw, h.nested.outline_setNode hv]
  have hv₁ : v ∈ ((g.setNode v none).setNode w none).nodeIds :=
    (hends.sound.setNode hw).mem_nodeIds (mem_nodeIds_setNode h hv)
  have hw₁ : w ∈ ((g.setNode v none).setNode w none).nodeIds :=
    mem_nodeIds_setNode hends.sound hw
  generalize (g.setNode v none).setNode w none = g₁ at hgrown houtline hv₁ hw₁
  have hdirected : g₁.directed = g.directed := hgrown.links.directed
  have hkey : edgeKey g₁.directed v w name ∉ g₁.edges.keys := by
    rw [hdirected, hgrown.links.keys]
    intro hmem
    have hhas : g.hasEdge v w name = true := Table.contains_iff.2 hmem
    rw [hnew] at hhas
    cases hhas
  have hstored : (EdgeRef.ofEnds g₁.directed v w name).IsStored g₁.directed :=
    EdgeRef.isStored_ofEnds hv hw hname
  have hlinked : (g₁.addEdge v w name label).Linked :=
    hgrown.sound.linked.addEdge hkey label hv₁ hw₁ hstored
  have hmodify : ((g₁.addEdge v w name label).modifyEdge v w name f).outline =
      (g₁.addEdge v w name label).outline.relabelEdge (EdgeRef.ofEnds g₁.directed v w name) f :=
    hlinked.outline_modifyEdge hstored f
  have hlabel : EdgeEntry.relabel (EdgeRef.ofEnds g₁.directed v w name) f
      ⟨EdgeRef.ofEnds g₁.directed v w name, label⟩ =
        ⟨EdgeRef.ofEnds g₁.directed v w name, f label⟩ := if_pos rfl
  -- no edge that was there is the one whose label changes
  have hold : g₁.outline.edges.map (EdgeEntry.relabel (EdgeRef.ofEnds g₁.directed v w name) f) =
      g₁.outline.edges := by
    refine (List.map_congr_left fun edge hedge => if_neg fun href => ?_).trans (List.map_id _)
    have hmem : edge.ref ∈ g₁.edgeRefs := List.mem_map_of_mem hedge
    rw [href] at hmem
    have hin := (hgrown.sound.linked.mem_keys_iff hstored).2 hmem
    rw [EdgeRef.key_ofEnds] at hin
    exact hkey hin
  rw [hmodify, outline_addEdge_of_not_mem hkey label, Outline.relabelEdge]
  simp only [List.map_append, hold, List.map_cons, List.map_nil, hlabel]
  rw [houtline, hdirected]
  rfl

/-! ### Removals -/

/-- A change that can be seen in the list of edges only. -/
def EdgesOnly (g g' : Graph) : Prop := g'.outline = { g.outline with edges := g'.outline.edges }

/-- Operations on edges can be run one after another. -/
theorem EdgesOnly.trans {g'' : Graph} (h : EdgesOnly g g') (h' : EdgesOnly g' g'') :
    EdgesOnly g g'' := by
  rw [EdgesOnly] at h h' ⊢
  rw [h', h]

/-- Operations on edges can be run over a list. -/
theorem edgesOnly_foldl {α : Type} {op : Graph → α → Graph} (hop : ∀ g a, EdgesOnly g (op g a))
    (g : Graph) (l : List α) : EdgesOnly g (l.foldl op g) := by
  induction l generalizing g with
  | nil => rfl
  | cons a l ih => exact (hop g a).trans (ih (op g a))

/-- When an edge is removed, the nodes look as before. -/
theorem edgesOnly_removeEdge (g : Graph) (v w : String) (name : Option String) :
    EdgesOnly g (g.removeEdge v w name) := by
  cases hget : g.edges.get? (edgeKey g.directed v w name) with
  | none => simp only [EdgesOnly, removeEdge, hget]
  | some entry =>
    have hfile : (g.unfileEdge (edgeKey g.directed v w name) entry.ref).outline = g.outline := by
      rw [unfileEdge, outline_modifyEntry_self, outline_modifyEntry_self]
      · exact fun _ _ => rfl
      · exact fun _ _ => rfl
    have hnodes : (g.unfileEdge (edgeKey g.directed v w name) entry.ref).outline.nodes =
        g.outline.nodes := congrArg Outline.nodes hfile
    rw [removeEdge_of_get? hget]
    exact Outline.ext rfl rfl rfl hnodes rfl

/-- When the unnamed edge under a key is removed, the nodes look as before. -/
theorem edgesOnly_removeUnnamed (g : Graph) (key : String) :
    EdgesOnly g (g.removeUnnamed key) := by
  rw [removeUnnamed]
  split
  · rfl
  · exact edgesOnly_removeEdge g _ _ none

/-- What the removal of a node without members does to the nodes. -/
theorem outline_removeNode (h : g.compound = true) (hempty : g.listed id = []) :
    (g.removeNode id).outline = { g.outline with
      nodes := g.outline.nodes.remove id
      edges := (g.removeNode id).outline.edges } := by
  cases hentry : g.nodes.get? id with
  | none =>
    have hnodes : g.outline.nodes.remove id = g.outline.nodes := by
      refine List.filter_eq_self.2 fun row hrow => decide_eq_true ?_
      rintro rfl
      obtain ⟨entry, hget, -⟩ := mem_nodes_outline.1 hrow
      rw [hentry] at hget
      cases hget
    simp only [removeNode, hentry, hnodes]
  | some entry =>
    -- nothing is moved up, since nothing lies in the node
    have hmembers : ((g.members.modify entry.parent fun l => l.erase id).get? id).getD [] = [] := by
      rw [listed] at hempty
      rw [Table.get?_modify]
      cases hget : g.members.get? id with
      | none => simp
      | some l =>
        rw [hget, Option.getD_some] at hempty
        simp [hempty]
    have herase : (g.nodes.erase id).entries.map (fun entry => row entry.1 entry.2) =
        g.outline.nodes.remove id := by
      rw [Table.entries_erase, outline, Rows.remove, List.filter_map]
      rfl
    simp only [removeNode, hentry, h, if_true, dropMember, children, hmembers, List.foldl_nil]
    rw [edgesOnly_foldl edgesOnly_removeUnnamed]
    exact Outline.ext rfl rfl rfl herase rfl

/-- A node without members is taken out with its edges, and nothing else changes. -/
theorem Sound.outline_removeWithEdges (h : g.Sound) (hempty : g.listed id = []) :
    (g.removeWithEdges id).outline = g.outline.removeNode id := by
  have hwithout : WithoutNode id g (g.removeWithEdges id) := h.removeWithEdges hempty
  have hedges : (g.removeWithEdges id).outline.edges = (g.outline.removeNode id).edges := by
    simp only [outline, Outline.removeNode, Table.values, hwithout.entries, List.filter_map]
    rfl
  have hstored : ∀ ref ∈ (g.nodeEdges? id none).getD [], ref.IsStored g.directed :=
    fun ref href => h.linked.isStored_of_mem_nodeEdges? href
  have hnesting := (h.linked.foldl_removeEdge hstored).nesting
  have hfirst := edgesOnly_foldl (fun g (ref : EdgeRef) =>
    edgesOnly_removeEdge g ref.source ref.target ref.name) g ((g.nodeEdges? id none).getD [])
  have hsecond := outline_removeNode (hnesting.compound.trans h.nested.compound)
    ((hnesting.listed id).trans hempty)
  rw [hfirst] at hsecond
  exact hsecond.trans (Outline.ext rfl rfl rfl rfl hedges)

end Graph

end ClusterGraph
