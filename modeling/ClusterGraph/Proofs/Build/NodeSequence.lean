import ClusterGraph.Proofs.Build.Keeping
import ClusterGraph.Proofs.Build.NamedScopes
import ClusterGraph.Proofs.Build.Scoping
import ClusterGraph.Proofs.FirstOccurrences

/-!
# The nodes of a document

Where every subgraph has an id, the places at which a document mentions a node, and the attributes
that it writes on nodes, can be read off its statements (`Document.mentions`, `Document.writes`). In
a build that keeps its nodes, the nodes are those mentioned, in the order of their first mentions;
the first mention of a node fixes what it lies in and the defaults that it starts with, and
everything written on it follows in the order of the document (`Build.build_nodes`).

The lists of mentions and writes grow with the build: `Described` says that given nodes are those
which the mentions and the writes so far make.
-/

namespace ClusterGraph

/-! ### Mentions and writes -/

/-- A place at which a node is mentioned. -/
structure Mention where
  id : String
  /-- The subgraph around it. -/
  scope : Option String
  /-- The defaults that are set there. -/
  set : Assignments

/-- The statements that write attributes on a node. -/
inductive WriteKind where
  | node
  | graph
  | inline

/-- Attributes that are written on a node, or on the graph itself. -/
structure Write where
  kind : WriteKind
  owner : Option String
  attrs : Attrs

/-- The text of a placement: the position in a node statement, the bounds in an attribute statement
for the graph. An empty one does not count. -/
def Write.layout? (w : Write) : Option String :=
  match w.kind with
  | .node => (w.attrs.get? "pos").filter fun pos => pos ≠ ""
  | .graph => (w.attrs.get? "bb").filter fun bb => bb ≠ ""
  | .inline => none

/-- The placement that is decoded where attributes are written. -/
def Write.geometry (settings : Settings) (w : Write) : Option Geometry :=
  match w.kind with
  | .node => Build.nodeGeometry settings w.attrs
  | .graph => Build.boundsGeometry settings w.attrs
  | .inline => none

namespace Statement

mutual

/-- The mentions of nodes in a statement, in order, in a scope where given defaults are set. -/
def mentions (scope : Option String) (set : Assignments) : Statement → List Mention
  | .node id _ => [⟨id, scope, set⟩]
  | .edge elems _ => mentionsOfAll scope set elems
  | .subgraph id stmts => id.toList.map (fun id => ⟨id, scope, set⟩) ++ mentionsOfAll id set stmts
  | .attr _ _ => []
  | .inlineAttr _ => []
  | .unknown => []

/-- The mentions of nodes in statements. -/
def mentionsOfAll (scope : Option String) (set : Assignments) : List Statement → List Mention
  | [] => []
  | stmt :: rest => stmt.mentions scope set ++ mentionsOfAll scope (set ++ stmt.assignments) rest

end

mutual

/-- What a statement writes on nodes, in order. -/
def writes (scope : Option String) : Statement → List Write
  | .node id attrs => [⟨.node, some id, attrs⟩]
  | .edge elems _ => writesOfAll scope elems
  | .subgraph id stmts => writesOfAll id stmts
  | .attr .graph attrs => [⟨.graph, scope, attrs⟩]
  | .attr _ _ => []
  | .inlineAttr attrs => [⟨.inline, scope, attrs⟩]
  | .unknown => []

/-- What statements write on nodes. -/
def writesOfAll (scope : Option String) : List Statement → List Write
  | [] => []
  | stmt :: rest => stmt.writes scope ++ writesOfAll scope rest

end

mutual

/-- The ids that are mentioned in a statement are those written in it. -/
theorem ids_mentions (scope : Option String) (set : Assignments) : ∀ stmt : Statement,
    (stmt.mentions scope set).map Mention.id = stmt.writtenIds
  | .node id attrs => rfl
  | .edge elems attrs => ids_mentionsOfAll scope set elems
  | .subgraph id stmts => by
    rw [mentions, List.map_append, List.map_map, ids_mentionsOfAll id set stmts, writtenIds]
    exact congrArg (· ++ _) (List.map_id _)
  | .attr target attrs => rfl
  | .inlineAttr attrs => rfl
  | .unknown => rfl

/-- The ids that are mentioned in statements are those written in them. -/
theorem ids_mentionsOfAll (scope : Option String) (set : Assignments) :
    ∀ stmts : List Statement,
      (mentionsOfAll scope set stmts).map Mention.id = writtenIdsOfAll stmts
  | [] => rfl
  | stmt :: rest => by
    rw [mentionsOfAll, List.map_append, ids_mentions scope set stmt,
      ids_mentionsOfAll scope _ rest, writtenIdsOfAll]

end

end Statement

/-- The mentions of nodes in a document, in order. -/
def Document.mentions (doc : Document) : List Mention := Statement.mentionsOfAll none [] doc.stmts

/-- What a document writes on its nodes and on the graph itself, in order. -/
def Document.writes (doc : Document) : List Write := Statement.writesOfAll none doc.stmts

/-! ### The nodes that mentions and writes make -/

section Described

variable {settings : Settings} {mentions : List Mention} {writes : List Write} {rows : Rows}
  {id : String} {m : Mention} {w : Write}

/-- What is written on a node. -/
def writesTo (id : String) (writes : List Write) : List Write :=
  writes.filter fun w => w.owner = some id

/-- The placement that comes of writes: that of the last one with the text of a placement. -/
def lastGeometry (settings : Settings) (writes : List Write) : Option Geometry :=
  if settings.decodeLayout then
    (writes.filter fun w => w.layout?.isSome).getLast?.bind (Write.geometry settings)
  else none

/-- The label of a node: the defaults at its first mention with all that is written on it laid over
them in turn, and the placement that is written last. -/
def Mention.label (settings : Settings) (m : Mention) (writes : List Write) : PlacedLabel where
  attrs := (writesTo m.id writes).foldl (fun attrs w => attrs.overlay w.attrs)
    (m.set.overlaid .node)
  geometry := lastGeometry settings (writesTo m.id writes)

/-- There is a layout text where layout is decoded and the attribute is not empty. -/
theorem isSome_layoutText (settings : Settings) (attrs : Attrs) (key : String) :
    (Build.layoutText settings attrs key).isSome = (settings.decodeLayout &&
      ((attrs.get? key).filter fun text => text ≠ "").isSome) := by
  rw [Build.layoutText_eq]
  cases settings.decodeLayout with
  | false => rfl
  | true => exact Option.isSome_map ..

/-- A placement is decoded where there is a text of one. -/
theorem Write.isSome_geometry (settings : Settings) (w : Write) :
    (w.geometry settings).isSome = (settings.decodeLayout && w.layout?.isSome) := by
  obtain ⟨kind, owner, attrs⟩ := w
  cases kind with
  | node => exact (Option.isSome_map ..).trans (isSome_layoutText settings attrs "pos")
  | graph => exact (Option.isSome_map ..).trans (isSome_layoutText settings attrs "bb")
  | inline => exact (Bool.and_false _).symm

/-- One more write places a node anew if it has the text of a placement. -/
theorem lastGeometry_append (settings : Settings) (writes : List Write) (w : Write) :
    lastGeometry settings (writes ++ [w]) =
      (w.geometry settings).or (lastGeometry settings writes) := by
  have hsome := w.isSome_geometry settings
  rw [lastGeometry, lastGeometry]
  cases hdecode : settings.decodeLayout with
  | false =>
    rw [hdecode, Bool.false_and, Option.isSome_eq_false_iff, Option.isNone_iff_eq_none] at hsome
    rw [hsome]
    rfl
  | true =>
    rw [hdecode, Bool.true_and] at hsome
    rw [if_pos rfl, if_pos rfl, List.filter_append]
    -- the last write counts exactly if it has a layout
    by_cases hlayout : w.layout?.isSome = true
    · have hlast : [w].filter (fun w => w.layout?.isSome) = [w] := List.filter_cons_of_pos hlayout
      obtain ⟨geometry, hgeometry⟩ := Option.isSome_iff_exists.1 (hsome.trans hlayout)
      rw [hlast, List.getLast?_append, List.getLast?_singleton, Option.some_or, Option.bind_some,
        hgeometry, Option.some_or]
    · have hlast : [w].filter (fun w => w.layout?.isSome) = [] := List.filter_cons_of_neg hlayout
      have hnone : w.geometry settings = none := by
        rwa [← Option.isNone_iff_eq_none, ← Option.isSome_eq_false_iff, hsome,
          ← Bool.not_eq_true]
      rw [hlast, List.append_nil, hnone, Option.none_or]

/-- A node on which nothing is written has the defaults at its first mention. -/
theorem label_of_not_owner (h : ∀ w ∈ writes, w.owner ≠ some m.id) :
    m.label settings writes = .ofAttrs (m.set.overlaid .node) := by
  have hnil : writesTo m.id writes = [] :=
    List.filter_eq_nil_iff.2 fun w hw => by simpa using h w hw
  have hgeometry : lastGeometry settings [] = none := by
    rw [lastGeometry]
    split <;> rfl
  rw [Mention.label, hnil, hgeometry]
  rfl

/-- A write on a node is the last one on it. -/
theorem writesTo_append_of_owner (h : w.owner = some id) (writes : List Write) :
    writesTo id (writes ++ [w]) = writesTo id writes ++ [w] := by
  have hlast : writesTo id [w] = [w] := List.filter_cons_of_pos (decide_eq_true h)
  rw [writesTo, List.filter_append]
  exact congrArg _ hlast

/-- A write elsewhere does not concern a node. -/
theorem writesTo_append_of_ne (h : w.owner ≠ some id) (writes : List Write) :
    writesTo id (writes ++ [w]) = writesTo id writes := by
  have hlast : writesTo id [w] = [] := List.filter_cons_of_neg (by simpa using h)
  rw [writesTo, List.filter_append]
  exact (congrArg _ hlast).trans (List.append_nil _)

/-- A write is merged into the label of its owner. -/
theorem label_append_of_owner (h : w.owner = some m.id) (writes : List Write) :
    m.label settings (writes ++ [w]) =
      (m.label settings writes).merge w.attrs (w.geometry settings) := by
  rw [Mention.label, writesTo_append_of_owner h, List.foldl_append, lastGeometry_append]
  rfl

/-- A write elsewhere does not change the label of a node. -/
theorem label_append_of_ne (h : w.owner ≠ some m.id) (writes : List Write) :
    m.label settings (writes ++ [w]) = m.label settings writes := by
  rw [Mention.label, writesTo_append_of_ne h]
  rfl

/-- What is mentioned last is mentioned. -/
theorem mem_ids_append_mention (mentions : List Mention) (m : Mention) :
    m.id ∈ (mentions ++ [m]).map Mention.id := by
  rw [List.map_append]
  exact List.mem_append_right _ List.mem_cons_self

/-- Given nodes are those that mentions and writes make. -/
structure Described (settings : Settings) (rows : Rows) (mentions : List Mention)
    (writes : List Write) : Prop where
  ids : rows.ids = (mentions.map Mention.id).eraseDups
  /-- The first mention of a node and what is written on it make up what it is. -/
  row : ∀ row ∈ rows, ∃ m, mentions.find? (fun m => m.id = row.id) = some m ∧
    row = ⟨m.id, m.scope, m.label settings writes⟩
  /-- Only nodes that are mentioned are written on. -/
  owner : ∀ w ∈ writes, ∀ id ∈ w.owner, id ∈ mentions.map Mention.id

namespace Described

/-- The nodes are the ids that are mentioned. -/
theorem mem_ids_iff (h : Described settings rows mentions writes) :
    id ∈ rows.ids ↔ id ∈ mentions.map Mention.id := by
  rw [h.ids, List.mem_eraseDups]

/-- Before the first mention there is no node. -/
theorem empty (settings : Settings) : Described settings [] [] [] := ⟨rfl, nofun, nofun⟩

/-- A node keeps its first mention when another mention follows. -/
theorem row_append (h : Described settings rows mentions writes) (m : Mention) {row : NodeRow}
    (hrow : row ∈ rows) :
    ∃ m', (mentions ++ [m]).find? (fun m => m.id = row.id) = some m' ∧
      row = ⟨m'.id, m'.scope, m'.label settings writes⟩ := by
  obtain ⟨m', hfind, heq⟩ := h.row row hrow
  exact ⟨m', by rw [List.find?_append, hfind, Option.some_or], heq⟩

/-- What is written on has been mentioned, and one mention more does not change that. -/
theorem owner_append (h : Described settings rows mentions writes) (m : Mention) :
    ∀ w ∈ writes, ∀ id ∈ w.owner, id ∈ (mentions ++ [m]).map Mention.id := by
  intro w hw id hid
  rw [List.map_append]
  exact List.mem_append_left _ (h.owner w hw id hid)

/-- A mention of a node that is there changes nothing. -/
theorem mention_of_mem (h : Described settings rows mentions writes) (hm : m.id ∈ rows.ids) :
    Described settings rows (mentions ++ [m]) writes := by
  refine ⟨?_, fun row hrow => h.row_append m hrow, h.owner_append m⟩
  rw [h.ids, List.map_append]
  exact (eraseDups_append_of_mem (h.mem_ids_iff.1 hm)).symm

/-- The first mention of a node adds it, with the defaults in force. -/
theorem mention_of_not_mem (h : Described settings rows mentions writes) (hm : m.id ∉ rows.ids) :
    Described settings (rows.add m.id m.scope (.ofAttrs (m.set.overlaid .node))) (mentions ++ [m])
      writes := by
  have hid := mt h.mem_ids_iff.2 hm
  -- nothing has been written on a node that has not been mentioned
  have hnone : mentions.find? (fun m' => m'.id = m.id) = none :=
    List.find?_eq_none.2 fun m' hm' heq => hid (List.mem_map.2 ⟨m', hm', of_decide_eq_true heq⟩)
  have hlabel : m.label settings writes = .ofAttrs (m.set.overlaid .node) :=
    label_of_not_owner fun w hw howner => hid (h.owner w hw m.id howner)
  refine ⟨?_, fun row hrow => ?_, h.owner_append m⟩
  · rw [Rows.ids_add, h.ids, List.map_append]
    exact (eraseDups_append_of_not_mem hid).symm
  · rcases List.mem_append.1 hrow with hrow | hrow
    · exact h.row_append m hrow
    · rw [List.mem_singleton.1 hrow]
      refine ⟨m, ?_, by rw [hlabel]⟩
      rw [List.find?_append, hnone]
      simp

/-- What is written is merged into the node on which it is written. -/
theorem write (h : Described settings rows mentions writes) (hw : w.owner = some id)
    (hid : id ∈ mentions.map Mention.id) :
    Described settings (rows.relabel id fun label => label.merge w.attrs (w.geometry settings))
      mentions (writes ++ [w]) := by
  have howner : ∀ id ∈ w.owner, id ∈ mentions.map Mention.id := by
    intro c hc
    obtain rfl : id = c := Option.some.inj (hw.symm.trans hc)
    exact hid
  refine ⟨?_, fun row hrow => ?_,
    List.forall_mem_append.2 ⟨h.owner, List.forall_mem_singleton.2 howner⟩⟩
  · rw [Rows.ids_relabel, h.ids]
  · obtain ⟨old, hold, rfl⟩ := List.mem_map.1 hrow
    obtain ⟨m, hfind, rfl⟩ := h.row old hold
    refine ⟨m, by rwa [NodeRow.id_relabel], ?_⟩
    by_cases hm : m.id = id
    · rw [NodeRow.relabel, if_pos hm, label_append_of_owner (hw.trans (congrArg some hm.symm))]
    · have hne : w.owner ≠ some m.id := by
        rw [hw]
        exact fun heq => hm (Option.some.inj heq).symm
      rw [NodeRow.relabel, if_neg hm, label_append_of_ne hne]

/-- What is written on the graph itself leaves the nodes alone. -/
theorem write_none (h : Described settings rows mentions writes) (hw : w.owner = none) :
    Described settings rows mentions (writes ++ [w]) := by
  have howner : ∀ id ∈ w.owner, id ∈ mentions.map Mention.id := by
    rw [hw]
    exact nofun
  refine ⟨h.ids, fun row hrow => ?_,
    List.forall_mem_append.2 ⟨h.owner, List.forall_mem_singleton.2 howner⟩⟩
  obtain ⟨m, hfind, heq⟩ := h.row row hrow
  have hne : w.owner ≠ some m.id := by
    rw [hw]
    exact nofun
  exact ⟨m, hfind, by rwa [label_append_of_ne hne]⟩

end Described

end Described

/-- A new node in a scope that is there is put behind the others. -/
theorem Rows.place_eq_add {rows : Rows} {id : String} {scope : Option String}
    (hscope : ∀ c ∈ scope, c ∈ rows.ids) (hid : id ∉ rows.ids) (label : PlacedLabel) :
    rows.place id scope label = rows.add id scope label := by
  cases scope with
  | none => rfl
  | some c =>
    have hc : c ∈ rows.ids := hscope c rfl
    have hne : c ≠ id := fun heq => hid (heq ▸ hc)
    have hadded : c ∈ (rows.add id (some c) label).ids := by
      rw [ids_add]
      exact List.mem_append_left _ hc
    rw [place, if_neg hne, supply_of_mem hadded]

namespace Build

open Statement (areNamed mentionsOfAll writesOfAll)

variable {settings : Settings} {doc : Document} {p p' : Progress} {action : Action}
  {rest : List Action} {set : Assignments} {mentions : List Mention} {writes : List Write}
  {id : String}

/-! ### Single actions -/

namespace Sketch

variable {k : Sketch} {scope : Option String}

/-- Making sure of a node in scope does what one mention more says. -/
theorem described_ensureNode (h : Described settings k.outline.nodes mentions writes)
    (hset : k.defaults.current = DefaultFrame.empty.mergeAll set)
    (hscope : ∀ c ∈ scope, c ∈ mentions.map Mention.id) :
    Described settings (k.ensureNode id scope).outline.nodes (mentions ++ [⟨id, scope, set⟩])
      writes := by
  have hnode : k.defaults.current.node = set.overlaid .node := by
    rw [hset]
    exact DefaultFrame.attrs_mergeAll _ _ .node
  rw [ensureNode]
  split
  · next hid => exact h.mention_of_mem hid
  · next hid =>
    have hplace := Rows.place_eq_add (fun c hc => h.mem_ids_iff.2 (hscope c hc)) hid
    have hnew := h.mention_of_not_mem (m := ⟨id, scope, set⟩) hid
    simp only [hplace, hnode]
    exact hnew

/-- Attributes that are merged into the scope do what one write more says. -/
theorem described_mergeIntoScope (h : Described settings k.outline.nodes mentions writes)
    (w : Write) (hscope : ∀ c ∈ w.owner, c ∈ mentions.map Mention.id) :
    Described settings (k.mergeIntoScope w.owner w.attrs (w.geometry settings)).outline.nodes
      mentions (writes ++ [w]) := by
  cases howner : w.owner with
  | none => exact h.write_none howner
  | some c => exact h.write howner (hscope c howner)

/-- A link between nodes that are there adds none. -/
theorem nodes_connect {stem v w : String} (hv : v ∈ k.outline.nodes.ids)
    (hw : w ∈ k.outline.nodes.ids) (attrs : Attrs) (points : Option (List Point)) :
    (k.connect stem v w attrs points).outline.nodes = k.outline.nodes := by
  rw [connect, Outline.link]
  dsimp only
  split
  · rfl
  · rw [Outline.addEdge, Rows.supply_of_mem hv, Rows.supply_of_mem hw]

end Sketch

/-! ### Statements -/

/-- The nodes of a build are those that mentions and writes make, and the innermost open subgraph
is one of them. -/
structure Progress.MadeOf (settings : Settings) (p : Progress) (mentions : List Mention)
    (writes : List Write) : Prop where
  nodes : Described settings p.sketch.outline.nodes mentions writes
  scope : ∀ c ∈ p.scope, c ∈ mentions.map Mention.id

/-- The innermost open subgraph stays among the nodes that are mentioned. -/
theorem Progress.MadeOf.of_nodes {more : List Mention} (h : p.MadeOf settings mentions writes)
    (hscopes : p'.scopes = p.scopes) {writes' : List Write}
    (hnodes : Described settings p'.sketch.outline.nodes (mentions ++ more) writes') :
    p'.MadeOf settings (mentions ++ more) writes' := by
  refine ⟨hnodes, fun c hc => ?_⟩
  rw [Progress.scope, hscopes] at hc
  rw [List.map_append]
  exact List.mem_append_left _ (h.scope c hc)

section Runs

variable (hadmissible : Admissible settings doc)

include hadmissible

/-- Links between nodes that are there add none. -/
theorem Reaches.nodes_linkActions {attrs : Attrs} {prev : List String} {elem : Statement}
    (h : Reaches settings doc p (linkActions attrs prev elem ++ rest))
    (hends : ∀ v, v ∈ prev ∨ v ∈ elem.writtenIds → v ∈ p.sketch.outline.nodes.ids) :
    (performAll settings p (linkActions attrs prev elem)).sketch.outline.nodes =
      p.sketch.outline.nodes := by
  rw [h.sketch_performAll hadmissible, Sketch.performAll]
  refine List.foldlRecOn _ _ (motive := fun k : Sketch =>
    k.outline.nodes = p.sketch.outline.nodes) rfl
    fun k hk action haction => ?_
  have hids : ∀ v ∈ action.ids, v ∈ k.outline.nodes.ids := fun v hv => by
    rw [hk]
    exact hends v (mem_ids_of_linkActions haction hv)
  rcases eq_of_mem_linkActions haction with rfl | ⟨v, w, rfl⟩
  · exact hk
  · have hv := hids v List.mem_cons_self
    have hw := hids w (List.mem_cons_of_mem _ List.mem_cons_self)
    exact (Sketch.nodes_connect hv hw attrs _).trans hk

/-- A node is mentioned. -/
theorem Reaches.madeOf_addNode (h : Reaches settings doc p (.addNode id :: rest))
    (hset : p.InForce set) (hmade : p.MadeOf settings mentions writes) :
    (perform settings p (.addNode id)).MadeOf settings (mentions ++ [⟨id, p.scope, set⟩])
      writes := by
  have hscopes : (perform settings p (.addNode id)).scopes = p.scopes := rfl
  refine hmade.of_nodes hscopes ?_
  rw [h.sketch_next hadmissible]
  exact Sketch.described_ensureNode hmade.nodes hset hmade.scope

/-- A write on a node that is mentioned. -/
theorem Reaches.madeOf_mergeNode {attrs : Attrs}
    (h : Reaches settings doc p (.mergeNode id attrs :: rest))
    (hid : id ∈ mentions.map Mention.id) (hmade : p.MadeOf settings mentions writes) :
    (perform settings p (.mergeNode id attrs)).MadeOf settings mentions
      (writes ++ [⟨.node, some id, attrs⟩]) := by
  refine ⟨?_, hmade.scope⟩
  rw [h.sketch_next hadmissible]
  exact hmade.nodes.write (w := ⟨.node, some id, attrs⟩) rfl hid

/-- A write on the innermost open subgraph, or on the graph itself. -/
theorem Reaches.madeOf_mergeIntoScope (h : Reaches settings doc p (action :: rest)) (w : Write)
    (howner : w.owner = p.scope) (hscopes : (perform settings p action).scopes = p.scopes)
    (haction : p.sketch.perform settings action =
      p.sketch.mergeIntoScope w.owner w.attrs (w.geometry settings))
    (hmade : p.MadeOf settings mentions writes) :
    (perform settings p action).MadeOf settings mentions (writes ++ [w]) := by
  refine ⟨?_, fun c hc => hmade.scope c ?_⟩
  · rw [h.sketch_next hadmissible, haction]
    exact Sketch.described_mergeIntoScope hmade.nodes w (howner ▸ hmade.scope)
  · rwa [Progress.scope, hscopes] at hc

/-- Entering a subgraph mentions its node, and opens it. -/
theorem Reaches.madeOf_open
    (h : Reaches settings doc (perform settings p (.enter (some id))) (.addScope :: rest))
    (hset : p.InForce set) (hmade : p.MadeOf settings mentions writes) :
    (perform settings (perform settings p (.enter (some id))) .addScope).MadeOf settings
      (mentions ++ [⟨id, p.scope, set⟩]) writes := by
  refine ⟨?_, fun c hc => ?_⟩
  · have hsketch := h.sketch_next hadmissible
    have hadded : (perform settings (perform settings p (.enter (some id))) .addScope).sketch =
        (p.sketch.enter settings.subgraphIdStem (some id)).ensureNode id p.scope := hsketch
    rw [hadded]
    exact Sketch.described_ensureNode hmade.nodes (hset.enter settings (some id)) hmade.scope
  · obtain rfl : id = c := Option.some.inj hc
    exact mem_ids_append_mention mentions ⟨id, p.scope, set⟩

end Runs

/-- A statement leaves the open subgraphs as they are. -/
theorem scopes_performAll (settings : Settings) (p : Progress) (stmt : Statement) :
    (performAll settings p (actionsOf stmt)).scopes = p.scopes := by
  rw [performAll_actionsOf]

/-- A statement leaves the innermost scope as it was. -/
theorem scope_performAll (settings : Settings) (p : Progress) (stmt : Statement) :
    (performAll settings p (actionsOf stmt)).scope = p.scope :=
  congrArg List.head? (scopes_performAll settings p stmt)

mutual

/-- Carrying out a statement adds what it mentions and what it writes. -/
theorem madeOf_actionsOf (hadmissible : Admissible settings doc)
    (hkeeps : KeepsNodes settings doc) {p : Progress} {rest : List Action} {set : Assignments}
    {mentions : List Mention} {writes : List Write} : ∀ stmt : Statement, stmt.isNamed = true →
      Reaches settings doc p (actionsOf stmt ++ rest) → p.InForce set →
      p.MadeOf settings mentions writes →
      (performAll settings p (actionsOf stmt)).MadeOf settings
        (mentions ++ stmt.mentions p.scope set) (writes ++ stmt.writes p.scope)
  | .node id attrs, hnamed, h, hset, hmade => by
    have hadded := h.madeOf_addNode hadmissible hset hmade
    have hid := mem_ids_append_mention mentions ⟨id, p.scope, set⟩
    exact (Reaches.next h).madeOf_mergeNode hadmissible hid hadded
  | .edge elems attrs, hnamed, h, hset, hmade =>
    madeOf_chainActions hadmissible hkeeps attrs [] elems hnamed h hset hmade nofun
  | .subgraph id stmts, hnamed, h, hset, hmade => by
    obtain ⟨hid, hstmts⟩ := Bool.and_eq_true_iff.1 hnamed
    obtain ⟨id, rfl⟩ := Option.isSome_iff_exists.1 hid
    obtain ⟨hentered, hopened, -, heq⟩ := hkeeps.performAll_subgraph hadmissible h
    have hopen := hentered.madeOf_open hadmissible hset hmade
    have hbody := madeOf_actionsOfAll hadmissible hkeeps stmts hstmts hopened
      ((hset.enter settings (some id)).addScope settings) hopen
    have hnodes := hbody.nodes
    rw [List.append_assoc] at hnodes
    -- what was open in the subgraph is gone, what was open around it still has its node
    have hscopes := scopes_performAll settings p (.subgraph (some id) stmts)
    rw [heq] at hscopes ⊢
    exact hmade.of_nodes hscopes hnodes
  | .attr target attrs, hnamed, h, hset, hmade => by
    rw [Statement.mentions, List.append_nil]
    cases target with
    | graph => exact h.madeOf_mergeIntoScope hadmissible ⟨.graph, p.scope, attrs⟩ rfl rfl rfl hmade
    | node =>
      rw [Statement.writes, List.append_nil]
      · exact ⟨hmade.nodes, hmade.scope⟩
      · nofun
    | edge =>
      rw [Statement.writes, List.append_nil]
      · exact ⟨hmade.nodes, hmade.scope⟩
      · nofun
  | .inlineAttr attrs, hnamed, h, hset, hmade => by
    rw [Statement.mentions, List.append_nil]
    exact h.madeOf_mergeIntoScope hadmissible ⟨.inline, p.scope, attrs⟩ rfl rfl rfl hmade
  | .unknown, hnamed, h, hset, hmade => by
    rw [Statement.mentions, Statement.writes, List.append_nil, List.append_nil]
    exact ⟨hmade.nodes, hmade.scope⟩

/-- Statements in a row make what their mentions and writes say, in turn. -/
theorem madeOf_actionsOfAll (hadmissible : Admissible settings doc)
    (hkeeps : KeepsNodes settings doc) {p : Progress} {rest : List Action} {set : Assignments}
    {mentions : List Mention} {writes : List Write} : ∀ stmts : List Statement,
      areNamed stmts = true → Reaches settings doc p (actionsOfAll stmts ++ rest) →
      p.InForce set → p.MadeOf settings mentions writes →
      (performAll settings p (actionsOfAll stmts)).MadeOf settings
        (mentions ++ mentionsOfAll p.scope set stmts) (writes ++ writesOfAll p.scope stmts)
  | [], hnamed, h, hset, hmade => by
    rw [mentionsOfAll, writesOfAll, List.append_nil, List.append_nil]
    exact hmade
  | stmt :: stmts, hnamed, h, hset, hmade => by
    obtain ⟨hstmt, hstmts⟩ := Bool.and_eq_true_iff.1 hnamed
    rw [actionsOfAll, List.append_assoc] at h
    have hfirst := madeOf_actionsOf hadmissible hkeeps stmt hstmt h hset hmade
    have hset' := hset.performAll_actionsOf settings stmt
    have hrest := madeOf_actionsOfAll hadmissible hkeeps stmts hstmts h.nexts hset' hfirst
    rw [scope_performAll, List.append_assoc, List.append_assoc] at hrest
    rw [actionsOfAll, performAll_append, mentionsOfAll, writesOfAll]
    exact hrest

/-- The elements of a chain make what their mentions and writes say; the links between them make no
nodes. -/
theorem madeOf_chainActions (hadmissible : Admissible settings doc)
    (hkeeps : KeepsNodes settings doc) {p : Progress} {rest : List Action} {set : Assignments}
    {mentions : List Mention} {writes : List Write} (attrs : Attrs) (prev : List String) :
    ∀ elems : List Statement, areNamed elems = true →
      Reaches settings doc p (chainActions attrs prev elems ++ rest) → p.InForce set →
      p.MadeOf settings mentions writes → (∀ v ∈ prev, v ∈ mentions.map Mention.id) →
      (performAll settings p (chainActions attrs prev elems)).MadeOf settings
        (mentions ++ mentionsOfAll p.scope set elems) (writes ++ writesOfAll p.scope elems)
  | [], hnamed, h, hset, hmade, hprev => by
    rw [mentionsOfAll, writesOfAll, List.append_nil, List.append_nil]
    exact hmade
  | elem :: elems, hnamed, h, hset, hmade, hprev => by
    obtain ⟨helem, helems⟩ := Bool.and_eq_true_iff.1 hnamed
    rw [chainActions, List.append_assoc, List.append_assoc] at h
    have hfirst := madeOf_actionsOf hadmissible hkeeps elem helem h hset hmade
    have hset' := hset.performAll_actionsOf settings elem
    -- the ends of a link have been mentioned, in the element or in those before it
    have hends : ∀ v, v ∈ prev ∨ v ∈ elem.writtenIds →
        v ∈ (mentions ++ elem.mentions p.scope set).map Mention.id := by
      intro v hv
      rw [List.map_append, Statement.ids_mentions, List.mem_append]
      exact hv.imp_left (hprev v)
    -- so the container supplies none of them, and the links leave the nodes alone
    have hnodes := h.nexts.nodes_linkActions hadmissible fun v hv =>
      hfirst.nodes.mem_ids_iff.2 (hends v hv)
    have hlinks : (performAll settings (performAll settings p (actionsOf elem))
        (linkActions attrs prev elem)).scopes =
          (performAll settings p (actionsOf elem)).scopes := by
      rw [performAll_linkActions]
    have hlinked : (performAll settings (performAll settings p (actionsOf elem))
        (linkActions attrs prev elem)).MadeOf settings (mentions ++ elem.mentions p.scope set)
          (writes ++ elem.writes p.scope) := by
      refine ⟨by rw [hnodes]; exact hfirst.nodes, fun c hc => hfirst.scope c ?_⟩
      rwa [Progress.scope, hlinks] at hc
    have hrest := madeOf_chainActions hadmissible hkeeps attrs _ elems helems h.nexts.nexts
      (hset'.performAll_linkActions settings attrs prev elem) hlinked
      fun v hv => hends v (mem_nextEnds hv)
    have hscope : (performAll settings (performAll settings p (actionsOf elem))
        (linkActions attrs prev elem)).scope = p.scope :=
      (congrArg List.head? hlinks).trans (scope_performAll settings p elem)
    rw [hscope, List.append_assoc, List.append_assoc] at hrest
    rw [chainActions, performAll_append, performAll_append, mentionsOfAll, writesOfAll]
    exact hrest

end

/-! ### Whole documents -/

/-- In a build that keeps its nodes they are those that the document mentions, and writes on. -/
theorem described_build (hadmissible : Admissible settings doc)
    (hkeeps : KeepsNodes settings doc) (hnamed : areNamed doc.stmts = true) :
    Described settings (doc.build settings).graph.outline.nodes doc.mentions doc.writes := by
  have hinitial : (Progress.initial doc).MadeOf settings [] [] := ⟨.empty settings, nofun⟩
  have hmade := madeOf_actionsOfAll hadmissible hkeeps doc.stmts hnamed
    (.initial_append_nil settings doc) (.initial doc) hinitial
  rw [performAll_actionsOfAll] at hmade
  exact hmade.nodes

/-- Whether a build keeps its nodes does not depend on the stem of ids that are not generated. -/
theorem KeepsNodes.stemless (hkeeps : KeepsNodes settings doc) (h : Named doc) :
    KeepsNodes settings.stemless doc := by
  intro p action rest hreach id hid
  have hreach' := h.reaches_stemless.1 hreach
  rw [perform_stemless (h.ne_enter_none hreach')]
  exact hkeeps p action rest hreach' id hid

/-- In a build that takes no node away, where every subgraph has an id, the nodes are those that the
document mentions, in the order of their first mentions. A node lies in the subgraph around its
first mention. Its attributes are the defaults in force there, with all that is written on it laid
over them in the order of the document, and its placement is the one that is written last. -/
theorem build_nodes (h : Named doc) (hkeeps : KeepsNodes settings doc) :
    (doc.build settings).graph.nodeIds = (doc.mentions.map Mention.id).eraseDups ∧
    ∀ id ∈ (doc.build settings).graph.nodeIds,
      ∃ m, doc.mentions.find? (fun m => m.id = id) = some m ∧
        (doc.build settings).graph.parent? id = m.scope ∧
        (doc.build settings).graph.node? id = some (m.label settings doc.writes) := by
  have hadmissible := h.admissible settings
  -- no id is generated, so the stem of generated ones may be taken empty
  have hdescribed := described_build hadmissible (hkeeps.stemless h) h.named
  have hsound := (Reaches.build settings.stemless doc).sound hadmissible
  have hcompound : (doc.build settings.stemless).graph.compound = true :=
    hsound.graph.nested.compound
  rw [h.build_stemless] at hdescribed hcompound
  refine ⟨?_, fun id hid => ?_⟩
  · rw [← Graph.ids_outline]
    exact hdescribed.ids
  · rw [← Graph.ids_outline] at hid
    obtain ⟨row, hrow, rfl⟩ := List.mem_map.1 hid
    obtain ⟨m, hfind, heq⟩ := hdescribed.row row hrow
    have hparent : row.parent = m.scope := congrArg NodeRow.parent heq
    have hlabel : row.label = m.label settings doc.writes := congrArg NodeRow.label heq
    refine ⟨m, hfind, ?_, ?_⟩
    · rw [Graph.parent?_of_mem hcompound hrow, hparent]
    · rw [Graph.node?_of_mem hrow, hlabel]

/-- A subgraph that is linked with a node, reopened inside the subgraph that it held before, and
written on as a node; a node that is mentioned again elsewhere; and defaults that change on the
way. -/
def reopenedScopes : Document where
  kind := .digraph
  strict := false
  id := none
  stmts :=
    [.attr .node (Attrs.ofPairs [("color", "red")]),
      .edge [.node "a" (Attrs.ofPairs [("pos", "1,2")]),
        .subgraph (some "s") [.attr .node (Attrs.ofPairs [("shape", "box")]),
          .inlineAttr (Attrs.ofPairs [("label", "x")]),
          .subgraph (some "t") [.node "a" (Attrs.ofPairs [("label", "y")]),
            .node "b" Attrs.empty]]] Attrs.empty,
      .subgraph (some "t") [.subgraph (some "s") [
        .attr .graph (Attrs.ofPairs [("bb", "0,0,1,1"), ("label", "z")]),
        .node "c" Attrs.empty]],
      .node "s" (Attrs.ofPairs [("color", "blue")])]

/-- Nodes that are mentioned first in an edge, in a nested scope and in one that is opened again. -/
theorem build_nodes_reopenedScopes :
    Named reopenedScopes ∧ KeepsNodes Settings.default reopenedScopes ∧
    ["a", "s", "t", "b", "c"].map (reopenedScopes.build Settings.default).graph.parent? =
      [none, none, some "s", some "t", some "s"] ∧
    (((reopenedScopes.build Settings.default).graph.node? "s").map PlacedLabel.attrs =
      some (Attrs.ofPairs [("color", "blue"), ("label", "z"), ("bb", "0,0,1,1")])) ∧
    (reopenedScopes.build Settings.default).graph.nodeIds = ["a", "s", "t", "b", "c"] ∧
    ∀ id ∈ (reopenedScopes.build Settings.default).graph.nodeIds,
      ∃ m, reopenedScopes.mentions.find? (fun m => m.id = id) = some m ∧
        (reopenedScopes.build Settings.default).graph.parent? id = m.scope ∧
        (reopenedScopes.build Settings.default).graph.node? id =
          some (m.label Settings.default reopenedScopes.writes) := by
  have hnamed : Named reopenedScopes := ⟨by decide, by decide⟩
  have hadmissible : Admissible Settings.default reopenedScopes := ⟨by decide, by decide⟩
  have hkeeps : KeepsNodes Settings.default reopenedScopes :=
    keepsNodes_of_fillsScopes hadmissible (by decide +kernel)
  have hmentions : (reopenedScopes.mentions.map Mention.id).eraseDups = ["a", "s", "t", "b", "c"] :=
    by decide +kernel
  obtain ⟨hids, hnodes⟩ := build_nodes hnamed hkeeps
  exact ⟨hnamed, hkeeps, by decide +kernel, by decide +kernel, hids.trans hmentions, hnodes⟩

end Build

end ClusterGraph
