import ClusterGraph.Proofs.Build.Sketch

/-!
# What the settings have an influence on

The settings decide how placements are decoded and how generated names start; everything else in a
built graph is fixed by the document. Placements are never read during a build: a sketch without
them (`Sketch.bare`) goes on like one of a build that decodes nothing (`Sketch.bare_perform`). The
names of edges are compared with each other only, so they may be written behind any stem
(`Sketch.renamed_perform`). A build therefore shows its **skeleton**, the build of the same document
without placements and with bare numbers for the names of edges, and two builds whose settings
agree on the ids of anonymous subgraphs show the same skeleton (`Build.build_agrees`).
-/

namespace ClusterGraph

/-! ### Without placements -/

/-- A label without its placement. -/
def PlacedLabel.bare (label : PlacedLabel) : PlacedLabel := .ofAttrs label.attrs

/-- A label without its points. -/
def EdgeLabel.bare (label : EdgeLabel) : EdgeLabel := .ofAttrs label.attrs

/-- Without its placement, a label takes what is laid over its attributes and nothing else. -/
theorem PlacedLabel.bare_merge (label : PlacedLabel) (attrs : Attrs) (geometry : Option Geometry) :
    (label.merge attrs geometry).bare = label.bare.merge attrs none := rfl

/-- Without its points, a label takes what is laid over its attributes and nothing else. -/
theorem EdgeLabel.bare_merge (label : EdgeLabel) (attrs : Attrs) (points : Option (List Point)) :
    (label.merge attrs points).bare = label.bare.merge attrs none := rfl

/-- A node as it is seen, without its placement. -/
def NodeRow.bare (row : NodeRow) : NodeRow := { row with label := row.label.bare }

/-- An edge without its points. -/
def EdgeEntry.bare (edge : EdgeEntry) : EdgeEntry := { edge with label := edge.label.bare }

namespace Rows

/-- Nodes without their placements. -/
def bare (rows : Rows) : Rows := rows.map NodeRow.bare

variable (rows : Rows) (id : String)

@[simp] theorem ids_bare : rows.bare.ids = rows.ids := by
  simp only [ids, bare, List.map_map]
  rfl

@[simp] theorem members_bare : rows.bare.members id = rows.members id := by
  simp only [members, bare, List.filter_map, List.map_map]
  rfl

/-- Adding a node and leaving its placement out can be done in either order. -/
theorem bare_add (parent : Option String) (label : PlacedLabel) :
    (rows.add id parent label).bare = rows.bare.add id parent label.bare := by
  rw [bare, add, List.map_append]
  rfl

/-- Whether a node is missing can be told without placements. -/
theorem bare_supply : (rows.supply id).bare = rows.bare.supply id := by
  rw [supply, supply, ids_bare]
  split
  · rfl
  · exact rows.bare_add id none _

/-- Where a node is put can be told without placements. -/
theorem bare_place (scope : Option String) (label : PlacedLabel) :
    (rows.place id scope label).bare = rows.bare.place id scope label.bare := by
  cases scope with
  | none => exact rows.bare_add id none label
  | some c =>
    rw [place, place]
    split
    · exact rows.bare_add id none label
    · rw [bare_supply, bare_add]

/-- A placement that is merged into a node is left out with the placement of that node. -/
theorem bare_merge (attrs : Attrs) (geometry : Option Geometry) :
    (rows.relabel id fun label => label.merge attrs geometry).bare =
      rows.bare.relabel id fun label => label.merge attrs none := by
  simp only [bare, relabel, List.map_map]
  refine List.map_congr_left fun row _ => ?_
  by_cases hid : row.id = id
  · simp [NodeRow.relabel, NodeRow.bare, hid, PlacedLabel.bare_merge]
  · simp [NodeRow.relabel, NodeRow.bare, hid]

/-- Which nodes are left can be told without placements. -/
theorem bare_remove : (rows.remove id).bare = rows.bare.remove id := by
  simp only [bare, remove, List.filter_map]
  rfl

end Rows

namespace Outline

/-- An outline without placements. -/
def bare (o : Outline) : Outline :=
  { o with label := o.label.bare, nodes := o.nodes.bare, edges := o.edges.map EdgeEntry.bare }

variable (o : Outline)

@[simp] theorem refs_bare : o.bare.refs = o.refs := by
  simp only [refs, bare, List.map_map]
  rfl

/-- A placement that is merged into the label of a scope is left out with the placement there. -/
theorem bare_merge (scope : Option String) (attrs : Attrs) (geometry : Option Geometry) :
    (o.relabel scope fun label => label.merge attrs geometry).bare =
      o.bare.relabel scope fun label => label.merge attrs none := by
  cases scope with
  | none => rfl
  | some id => exact Outline.ext rfl rfl rfl (o.nodes.bare_merge id attrs geometry) rfl

/-- Whether an edge is there already can be told without points. -/
theorem bare_link (v w : String) (name : Option String) (label : EdgeLabel) (attrs : Attrs)
    (points : Option (List Point)) :
    (o.link v w name label fun label => label.merge attrs points).bare =
      o.bare.link v w name label.bare fun label => label.merge attrs none := by
  by_cases hmem : EdgeRef.ofEnds o.directed v w name ∈ o.refs
  · rw [o.link_of_mem _ _ hmem, o.bare.link_of_mem _ _ (o.refs_bare.symm ▸ hmem)]
    refine Outline.ext rfl rfl rfl rfl ?_
    simp only [relabelEdge, bare, List.map_map]
    refine List.map_congr_left fun edge _ => ?_
    by_cases href : edge.ref = EdgeRef.ofEnds o.directed v w name
    · simp [EdgeEntry.relabel, EdgeEntry.bare, href, EdgeLabel.bare_merge]
    · simp [EdgeEntry.relabel, EdgeEntry.bare, href]
  · rw [o.link_of_not_mem _ _ hmem, o.bare.link_of_not_mem _ _ (o.refs_bare.symm ▸ hmem)]
    refine Outline.ext rfl rfl rfl ?_ ?_
    · simp only [addEdge, bare, Rows.bare_supply]
    · simp only [addEdge, bare, List.map_append, List.map_cons, List.map_nil, EdgeEntry.bare,
        EdgeLabel.bare_merge]

/-- Whether a subgraph holds nodes can be told without placements. -/
theorem bare_elide (id : String) : (o.elide id).bare = o.bare.elide id := by
  have hmembers : o.bare.nodes.members id = o.nodes.members id := o.nodes.members_bare id
  rw [elide, elide, hmembers]
  split
  · refine Outline.ext rfl rfl rfl (o.nodes.bare_remove id) ?_
    simp only [removeNode, bare, List.filter_map]
    rfl
  · rfl

end Outline

/-- The same settings, but layout is not decoded. -/
def Settings.undecoded (settings : Settings) : Settings := { settings with decodeLayout := false }

namespace Build

variable {settings settings' : Settings} {doc : Document} {action : Action}

/-- When layout is not decoded, no text of an attribute counts as one. -/
theorem layoutText_eq_none (h : settings.decodeLayout = false) (attrs : Attrs) (key : String) :
    layoutText settings attrs key = none := by
  rw [layoutText, if_neg (by simp [h])]

/-- When layout is not decoded, nodes have no placement. -/
theorem nodeGeometry_eq_none (h : settings.decodeLayout = false) (attrs : Attrs) :
    nodeGeometry settings attrs = none := by
  rw [nodeGeometry, layoutText_eq_none h]
  rfl

/-- When layout is not decoded, neither clusters nor the graph have a placement. -/
theorem boundsGeometry_eq_none (h : settings.decodeLayout = false) (attrs : Attrs) :
    boundsGeometry settings attrs = none := by
  rw [boundsGeometry, layoutText_eq_none h]
  rfl

/-- When layout is not decoded, edges have no points. -/
theorem edgePoints_eq_none (h : settings.decodeLayout = false) (attrs : Attrs) :
    edgePoints settings attrs = none := by
  rw [edgePoints, layoutText_eq_none h]
  rfl

namespace Sketch

/-- A sketch without placements. -/
def bare (k : Sketch) : Sketch := { k with outline := k.outline.bare }

variable (k : Sketch)

@[simp] theorem ids_bare : k.bare.outline.nodes.ids = k.outline.nodes.ids :=
  k.outline.nodes.ids_bare

/-- A node is created alike with and without placements around it. -/
theorem bare_ensureNode (id : String) (scope : Option String) :
    (k.ensureNode id scope).bare = k.bare.ensureNode id scope := by
  rw [ensureNode, ensureNode, ids_bare]
  split
  · rfl
  · exact Sketch.ext (Outline.ext rfl rfl rfl (k.outline.nodes.bare_place _ _ _) rfl)
      rfl rfl rfl rfl

/-- Attributes reach the same label, or are reported alike, with and without placements. -/
theorem bare_mergeIntoScope (scope : Option String) (attrs : Attrs) (geometry : Option Geometry) :
    (k.mergeIntoScope scope attrs geometry).bare = k.bare.mergeIntoScope scope attrs none := by
  have hmissing : k.bare.missing scope = k.missing scope := by
    simp only [missing, ids_bare]
  rw [mergeIntoScope, mergeIntoScope, hmissing]
  exact Sketch.ext (k.outline.bare_merge scope attrs geometry) rfl rfl rfl rfl

/-- An edge is linked alike, and takes the same number, with and without points. -/
theorem bare_connect (stem v w : String) (attrs : Attrs) (points : Option (List Point)) :
    (k.connect stem v w attrs points).bare = k.bare.connect stem v w attrs none := by
  have hnumber : k.bare.nextNumber v w = k.nextNumber v w := by
    have hrefs : k.bare.outline.refs = k.outline.refs := k.outline.refs_bare
    rw [nextNumber, nextNumber, hrefs]
    rfl
  rw [connect, connect, hnumber]
  exact Sketch.ext (k.outline.bare_link v w _ _ attrs points) rfl rfl rfl rfl

/-- A subgraph is opened alike, and takes the same id, with and without placements. -/
theorem bare_enter (stem : String) (id : Option String) :
    (k.enter stem id).bare = k.bare.enter stem id := by
  have hfree : k.bare.nextFree stem = k.nextFree stem := by
    simp only [nextFree, ids_bare]
    rfl
  cases id with
  | some id => rfl
  | none =>
    rw [enter, enter, hfree]
    rfl

/-- Placements are written, but never read. -/
theorem bare_perform (settings : Settings) (action : Action) :
    (k.perform settings action).bare = k.bare.perform settings.undecoded action := by
  have hoff : settings.undecoded.decodeLayout = false := rfl
  cases action with
  | enter id => exact k.bare_enter settings.subgraphIdStem id
  | addScope =>
    cases hscopes : k.scopes with
    | nil => simp only [perform, hscopes, bare]
    | cons id outer =>
      have hensure := k.bare_ensureNode id outer.head?
      simpa only [perform, hscopes, bare] using hensure
  | addNode id => exact k.bare_ensureNode id k.scope
  | mergeNode id attrs =>
    rw [perform, perform, nodeGeometry_eq_none hoff]
    exact Sketch.ext (k.outline.bare_merge (some id) attrs _) rfl rfl rfl rfl
  | attr target attrs =>
    cases target with
    | graph =>
      rw [perform, perform, boundsGeometry_eq_none hoff]
      exact k.bare_mergeIntoScope k.scope attrs _
    | node => rfl
    | edge => rfl
  | inlineAttr attrs => exact k.bare_mergeIntoScope k.scope attrs none
  | link v w attrs =>
    rw [perform, perform, edgePoints_eq_none hoff]
    exact k.bare_connect settings.edgeNameStem v w attrs _
  | skipStatement => rfl
  | skipElement => rfl
  | elide =>
    cases hscopes : k.scopes with
    | nil => simp only [perform, hscopes, bare]
    | cons id outer => simp only [perform, hscopes, bare, Outline.bare_elide]
  | leave => rfl

end Sketch

end Build

/-! ### With other names for edges -/

/-- An edge with a stem in front of its name, if it has one. -/
def EdgeRef.renamed (stem : String) (ref : EdgeRef) : EdgeRef :=
  { ref with name := ref.name.map (stem ++ ·) }

/-- An edge with a stem in front of its name, if it has one. -/
def EdgeEntry.renamed (stem : String) (edge : EdgeEntry) : EdgeEntry :=
  { edge with ref := edge.ref.renamed stem }

/-- The order in which the ends are stored has nothing to do with names. -/
theorem EdgeRef.renamed_ofEnds (stem : String) (directed : Bool) (v w : String)
    (name : Option String) : (ofEnds directed v w name).renamed stem =
      ofEnds directed v w (name.map (stem ++ ·)) := rfl

/-- Names behind one stem are told apart as well as the names alone. -/
theorem EdgeRef.renamed_injective (stem : String) : Function.Injective (EdgeRef.renamed stem) := by
  have hstem : Function.Injective (stem ++ · : String → String) := fun _ _ h =>
    String.append_right_inj stem |>.1 h
  rintro ⟨source, target, name⟩ ⟨source', target', name'⟩ h
  obtain ⟨hsource, htarget, hname⟩ := EdgeRef.mk.inj h
  rw [EdgeRef.mk.injEq]
  exact ⟨hsource, htarget, Option.map_injective hstem hname⟩

namespace Outline

/-- An outline with a stem in front of the names of edges. -/
def renamed (stem : String) (o : Outline) : Outline :=
  { o with edges := o.edges.map (EdgeEntry.renamed stem) }

variable (stem : String) (o : Outline)

/-- The edges of an outline are renamed where they stand. -/
theorem refs_renamed : (o.renamed stem).refs = o.refs.map (EdgeRef.renamed stem) := by
  simp only [refs, renamed, List.map_map]
  rfl

/-- Which edges are there does not depend on the stem of their names. -/
theorem mem_refs_renamed (v w : String) (name : Option String) :
    EdgeRef.ofEnds (o.renamed stem).directed v w (name.map (stem ++ ·)) ∈ (o.renamed stem).refs ↔
      EdgeRef.ofEnds o.directed v w name ∈ o.refs := by
  rw [refs_renamed, ← EdgeRef.renamed_ofEnds]
  exact List.mem_map_of_injective (EdgeRef.renamed_injective stem)

/-- An edge is found again under its longer name, so a link adds one or changes one alike. -/
theorem renamed_link (v w : String) (name : Option String) (label : EdgeLabel)
    (f : EdgeLabel → EdgeLabel) : (o.link v w name label f).renamed stem =
      (o.renamed stem).link v w (name.map (stem ++ ·)) label f := by
  by_cases hmem : EdgeRef.ofEnds o.directed v w name ∈ o.refs
  · rw [o.link_of_mem label f hmem,
      link_of_mem _ label f ((o.mem_refs_renamed stem v w name).2 hmem)]
    refine Outline.ext rfl rfl rfl rfl ?_
    simp only [relabelEdge, renamed, List.map_map]
    refine List.map_congr_left fun edge _ => ?_
    have href : edge.ref.renamed stem = (EdgeRef.ofEnds o.directed v w name).renamed stem ↔
        edge.ref = EdgeRef.ofEnds o.directed v w name := (EdgeRef.renamed_injective stem).eq_iff
    simp only [Function.comp_apply, EdgeEntry.relabel, EdgeEntry.renamed, ← EdgeRef.renamed_ofEnds,
      href]
    split <;> rfl
  · rw [o.link_of_not_mem label f hmem,
      link_of_not_mem _ label f fun h => hmem ((o.mem_refs_renamed stem v w name).1 h)]
    refine Outline.ext rfl rfl rfl rfl ?_
    simp only [addEdge, renamed, List.map_append, List.map_cons, List.map_nil]
    rfl

/-- Edges go away with their ends, whatever they are called. -/
theorem renamed_elide (id : String) : (o.elide id).renamed stem = (o.renamed stem).elide id := by
  have hremove : (o.removeNode id).renamed stem = (o.renamed stem).removeNode id := by
    refine Outline.ext rfl rfl rfl rfl ?_
    simp only [removeNode, renamed, List.filter_map]
    rfl
  rw [elide, elide, apply_ite (renamed stem), hremove]
  rfl

end Outline

/-- The settings under which a build shows no more than its skeleton: layout is not decoded, and the
names of edges have no stem. -/
def Settings.skeleton (subgraphIdStem : String) : Settings :=
  { Settings.default with
    decodeLayout := false
    subgraphIdStem := subgraphIdStem
    edgeNameStem := "" }

namespace Build

/-- A generated name is a bare number behind its stem. -/
theorem numbered_eq (stem : String) (n : Nat) : numbered stem n = stem ++ numbered "" n := by
  rw [numbered, numbered, String.empty_append]

namespace Sketch

/-- A sketch with a stem in front of the names of edges. -/
def renamed (stem : String) (k : Sketch) : Sketch := { k with outline := k.outline.renamed stem }

variable (stem : String) (k : Sketch)

/-- Nodes are created alike whatever edges are called. -/
theorem renamed_ensureNode (id : String) (scope : Option String) :
    (k.ensureNode id scope).renamed stem = (k.renamed stem).ensureNode id scope := by
  rw [ensureNode, ensureNode, apply_ite (renamed stem)]
  rfl

/-- Attributes reach the same label whatever edges are called. -/
theorem renamed_mergeIntoScope (scope : Option String) (attrs : Attrs)
    (geometry : Option Geometry) : (k.mergeIntoScope scope attrs geometry).renamed stem =
      (k.renamed stem).mergeIntoScope scope attrs geometry := by
  cases scope <;> rfl

/-- An edge that takes a bare number for its name takes the same number behind a stem. -/
theorem renamed_connect (v w : String) (attrs : Attrs) (points : Option (List Point)) :
    (k.connect "" v w attrs points).renamed stem =
      (k.renamed stem).connect stem v w attrs points := by
  -- whether an edge gets a number, and which one, does not depend on the stem
  have hmem := k.outline.mem_refs_renamed stem v w none
  have hnumber : (k.renamed stem).nextNumber v w = k.nextNumber v w :=
    if_congr (and_congr_right fun _ => hmem) rfl rfl
  have hname : ((k.nextNumber v w).map (numbered "")).map (stem ++ ·) =
      (k.nextNumber v w).map (numbered stem) := by
    rw [Option.map_map]
    exact congrArg (Option.map · (k.nextNumber v w)) (funext fun n => (numbered_eq stem n).symm)
  have hlink := k.outline.renamed_link stem v w ((k.nextNumber v w).map (numbered ""))
    (EdgeLabel.ofAttrs k.defaults.current.edge) fun label => label.merge attrs points
  rw [hname] at hlink
  rw [connect, connect, hnumber]
  exact Sketch.ext hlink rfl rfl rfl rfl

/-- The stem of the names of edges may be added afterwards. -/
theorem renamed_perform {settings : Settings} (h : settings.decodeLayout = false)
    (action : Action) :
    (k.perform (.skeleton settings.subgraphIdStem) action).renamed settings.edgeNameStem =
      (k.renamed settings.edgeNameStem).perform settings action := by
  -- neither of the settings decodes placements, so only the names of edges are at stake
  have hoff : (Settings.skeleton settings.subgraphIdStem).decodeLayout = false := rfl
  cases action with
  | enter id => cases id <;> rfl
  | addScope =>
    cases hscopes : k.scopes with
    | nil => simp only [perform, hscopes, renamed]
    | cons id outer =>
      have hensure := k.renamed_ensureNode settings.edgeNameStem id outer.head?
      simpa only [perform, hscopes, renamed] using hensure
  | addNode id => exact k.renamed_ensureNode _ id k.scope
  | mergeNode id attrs =>
    rw [perform, perform, nodeGeometry_eq_none hoff, nodeGeometry_eq_none h]
    rfl
  | attr target attrs =>
    cases target with
    | graph =>
      rw [perform, perform, boundsGeometry_eq_none hoff, boundsGeometry_eq_none h]
      exact k.renamed_mergeIntoScope _ k.scope attrs none
    | node => rfl
    | edge => rfl
  | inlineAttr attrs => exact k.renamed_mergeIntoScope _ k.scope attrs none
  | link v w attrs =>
    rw [perform, perform, edgePoints_eq_none hoff, edgePoints_eq_none h]
    exact k.renamed_connect settings.edgeNameStem v w attrs none
  | skipStatement => rfl
  | skipElement => rfl
  | elide =>
    cases hscopes : k.scopes with
    | nil => simp only [perform, hscopes, renamed]
    | cons id outer => simp only [perform, hscopes, renamed, Outline.renamed_elide]
  | leave => rfl

/-! ### Skeletons -/

/-- A sketch shows its skeleton: it differs from it in placements and in the stem of the names of
edges at most. -/
def Shows (k : Sketch) (stem : String) (skeleton : Sketch) : Prop := k.bare = skeleton.renamed stem

variable {k} {skeleton : Sketch}

/-- One action, with the decoding and the names of the settings, shows what it does to the skeleton.
-/
theorem Shows.perform {settings : Settings} (h : k.Shows settings.edgeNameStem skeleton)
    (action : Action) : (k.perform settings action).Shows settings.edgeNameStem
      (skeleton.perform (.skeleton settings.subgraphIdStem) action) := by
  have hoff : settings.undecoded.decodeLayout = false := rfl
  have hrenamed := skeleton.renamed_perform hoff action
  rw [Shows] at h ⊢
  rw [bare_perform, h]
  exact hrenamed.symm

/-- By induction on the actions, a whole run shows the run of the skeleton. -/
theorem Shows.performAll {settings : Settings} (h : k.Shows settings.edgeNameStem skeleton)
    (actions : List Action) : (k.performAll settings actions).Shows settings.edgeNameStem
      (skeleton.performAll (.skeleton settings.subgraphIdStem) actions) := by
  induction actions generalizing k skeleton with
  | nil => exact h
  | cons action actions ih => exact ih (h.perform action)

/-- At its end a build shows the build of its skeleton. -/
theorem shows_final (settings : Settings) (doc : Document) :
    (final settings doc).Shows settings.edgeNameStem
      (final (.skeleton settings.subgraphIdStem) doc) :=
  Shows.performAll (by rfl) _

/-- A build that decodes no layout has no placements. -/
theorem bare_final {settings : Settings} (h : settings.decodeLayout = false) (doc : Document) :
    (final settings doc).bare = final settings doc := by
  have hsame : settings.undecoded = settings := by rw [Settings.undecoded, ← h]
  have hstep : ∀ (actions : List Action) (k : Sketch), k.bare = k →
      (k.performAll settings actions).bare = k.performAll settings actions := by
    intro actions
    induction actions with
    | nil => exact fun k hk => hk
    | cons action actions ih =>
      exact fun k hk => ih _ (by rw [bare_perform, hk, hsame])
  exact hstep _ _ (by rfl)

end Sketch

end Build

end ClusterGraph
