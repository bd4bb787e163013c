import ClusterGraph.Proofs.Build.Creation
import ClusterGraph.Proofs.Graph.Patches

/-!
# What a statement leaves behind in a strict build

When a statement is carried out in a strict build and takes no node away, the graph has got what the
statement asks for, its nodes and edges (`Action.ShownBy`), and it absorbs what the statement merges
into labels, its patches (`patchesOf`), since each label holds what was merged into it last.

The labels of anonymous subgraphs are left out: they go by generated ids, and another time these
will be others. As long as no generated id is written in the statement itself, no patch of the
statement concerns such a label (`Sketch.leads_actionsOf`).
-/

namespace ClusterGraph

namespace Build

/-! ### The patches of a statement -/

/-- What attributes of the enclosing subgraph are written on. -/
inductive Holder where
  /-- The graph itself, or the node of a subgraph with an id. -/
  | known (scope : Option String)
  /-- The node of an anonymous subgraph. -/
  | anonymous

namespace Holder

/-- What attributes in a subgraph are written on. -/
def ofId : Option String → Holder
  | some id => known (some id)
  | none => anonymous

/-- The patches that attributes of the enclosing subgraph make. -/
def patches (attrs : Attrs) (geometry : Option Geometry) : Holder → List Patch
  | known scope => [.onto scope attrs geometry]
  | anonymous => []

/-- The innermost open subgraph is there. It has one of the given ids if it is known, and none of
them if it is anonymous. -/
def Fits (named : List String) (k : Sketch) : Holder → Prop
  | known scope => k.scope = scope ∧ ∀ c ∈ scope, c ∈ k.outline.nodes.ids ∧ c ∈ named
  | anonymous => ∃ c, k.scope = some c ∧ c ∈ k.outline.nodes.ids ∧ c ∉ named

variable {named : List String} {k k' : Sketch} {holder : Holder}

/-- The scope that a holder fits is a node. -/
theorem Fits.mem_ids (h : holder.Fits named k) : ∀ c ∈ k.scope, c ∈ k.outline.nodes.ids := by
  cases holder with
  | known scope =>
    obtain ⟨hscope, hmem⟩ := h
    exact fun c hc => (hmem c (hscope ▸ hc)).1
  | anonymous =>
    obtain ⟨c, hscope, hmem, -⟩ := h
    rw [hscope]
    exact fun x hx => Option.some.inj hx ▸ hmem

/-- A holder goes on to fit while the scope is the same and no node goes away. -/
theorem Fits.mono (h : holder.Fits named k) (hscope : k'.scope = k.scope)
    (hids : k.outline.nodes.ids ⊆ k'.outline.nodes.ids) : holder.Fits named k' := by
  cases holder with
  | known scope => exact ⟨hscope.trans h.1, fun c hc => ⟨hids (h.2 c hc).1, (h.2 c hc).2⟩⟩
  | anonymous =>
    obtain ⟨c, hc, hmem, hnamed⟩ := h
    exact ⟨c, hscope.trans hc, hids hmem, hnamed⟩

/-- A subgraph that has just been opened. -/
theorem fits_ofId {id : Option String} {c : String} (hscope : k.scope = some c)
    (hmem : c ∈ k.outline.nodes.ids) (hid : ∀ x ∈ id, c = x ∧ c ∈ named)
    (hnone : id = none → c ∉ named) : (ofId id).Fits named k := by
  cases id with
  | none => exact ⟨c, hscope, hmem, hnone rfl⟩
  | some x =>
    obtain ⟨rfl, hnamed⟩ := hid x rfl
    exact ⟨hscope, fun x hx => Option.some.inj hx ▸ ⟨hmem, hnamed⟩⟩

end Holder

/-- What an action that links two nodes merges into the label of their edge. -/
def linkPatch (settings : Settings) (directed : Bool) : Action → Option Patch
  | .link v w attrs =>
    some (.edge (EdgeRef.ofEnds directed v w none) attrs (edgePoints settings attrs))
  | _ => none

mutual

/-- What a statement merges into labels, in order, but for those of anonymous subgraphs. -/
def patchesOf (settings : Settings) (directed : Bool) (holder : Holder) : Statement → List Patch
  | .node id attrs => [.onto (some id) attrs (nodeGeometry settings attrs)]
  | .edge elems attrs => chainPatches settings directed holder attrs [] elems
  | .subgraph id stmts => patchesOfAll settings directed (.ofId id) stmts
  | .attr .graph attrs => holder.patches attrs (boundsGeometry settings attrs)
  | .attr .node _ => []
  | .attr .edge _ => []
  | .inlineAttr attrs => holder.patches attrs none
  | .unknown => []

/-- What statements merge into labels. -/
def patchesOfAll (settings : Settings) (directed : Bool) (holder : Holder) :
    List Statement → List Patch
  | [] => []
  | stmt :: rest =>
    patchesOf settings directed holder stmt ++ patchesOfAll settings directed holder rest

/-- What the elements of a chain and their links with the nodes before merge into labels. -/
def chainPatches (settings : Settings) (directed : Bool) (holder : Holder) (attrs : Attrs)
    (prev : List String) : List Statement → List Patch
  | [] => []
  | elem :: rest =>
    patchesOf settings directed holder elem ++
      (linkActions attrs prev elem).filterMap (linkPatch settings directed) ++
      chainPatches settings directed holder attrs (nextEnds prev elem) rest

end

/-! ### What an action asks for -/

/-- What an action of a statement asks for is there: a node, a subgraph that has members, or an
edge. -/
def Action.ShownBy (o : Outline) : Action → Prop
  | .addNode id => id ∈ o.nodes.ids
  | .enter (some id) => id ∈ o.nodes.ids ∧ o.nodes.members id ≠ []
  | .link v w _ => EdgeRef.ofEnds o.directed v w none ∈ o.refs
  | _ => True

/-- What is shown stays shown while an outline grows. -/
theorem Action.ShownBy.mono {o o' : Outline} {action : Action} (h : action.ShownBy o)
    (hextends : o.Extends o') : action.ShownBy o' := by
  cases action with
  | addNode id => exact hextends.mem_ids h
  | enter id =>
    cases id with
    | none => trivial
    | some id => exact ⟨hextends.mem_ids h.1, Rows.members_ne_nil hextends.frame h.2⟩
  | link v w attrs =>
    have hmem := hextends.refs h
    rwa [← hextends.directed] at hmem
  | addScope | mergeNode | attr | inlineAttr | skipStatement | skipElement | elide | leave =>
    trivial

variable {settings : Settings} {named : List String} {directed : Bool} {holder : Holder}
  {patches patches' : List Patch} {k k' k'' : Sketch} {action : Action}

namespace Sketch

/-! ### Statements that take nothing away -/

/-- An action takes no node away and generates none of the given ids. -/
def Permits (settings : Settings) (named : List String) (k : Sketch) : Action → Prop
  | .enter none =>
    numbered settings.subgraphIdStem (k.nextFree settings.subgraphIdStem) ∉ named
  | .elide => ∀ c ∈ k.scope, c ∈ k.outline.nodes.ids → k.outline.nodes.members c ≠ []
  | _ => True

/-- Actions take no node away and generate none of the given ids. -/
def Undisturbed (settings : Settings) (named : List String) (k : Sketch)
    (actions : List Action) : Prop :=
  ∀ before action after, actions = before ++ action :: after →
    (k.performAll settings before).Permits settings named action

/-- Actions that run undisturbed do so in both parts. -/
theorem Undisturbed.append {xs ys : List Action} (h : k.Undisturbed settings named (xs ++ ys)) :
    k.Undisturbed settings named xs ∧ (k.performAll settings xs).Undisturbed settings named ys := by
  refine ⟨fun before action after hxs => ?_, fun before action after hys => ?_⟩
  · refine h before action (after ++ ys) ?_
    rw [hxs, List.append_assoc, List.cons_append]
  · have hpermits := h (xs ++ before) action after (by rw [hys, List.append_assoc])
    rwa [performAll_append] at hpermits

/-! ### Subgraphs that are opened and closed -/

/-- Creating a node opens no scope. -/
theorem scopes_ensureNode (k : Sketch) (id : String) (scope : Option String) :
    (k.ensureNode id scope).scopes = k.scopes := by
  rw [ensureNode]
  split <;> rfl

/-- A sketch in which a subgraph has been opened. -/
def opened (settings : Settings) (k : Sketch) (id : Option String) : Sketch :=
  (k.perform settings (.enter id)).perform settings .addScope

/-- A subgraph is opened, filled, removed if it is empty, and closed. -/
theorem performAll_subgraph (settings : Settings) (k : Sketch) (id : Option String)
    (stmts : List Statement) : k.performAll settings (actionsOf (.subgraph id stmts)) =
      (((k.opened settings id).performAll settings (actionsOfAll stmts)).perform settings
        .elide).perform settings .leave := by
  rw [actionsOf, performAll_append, performAll_append]
  rfl

/-- A subgraph has been opened with its own id, or with a generated one, and its node has been made
sure of. -/
structure Opens (settings : Settings) (k : Sketch) (id : Option String) (c : String)
    (k' : Sketch) : Prop where
  scopes : k'.scopes = c :: k.scopes
  node : ∃ entered : Sketch, entered.outline = k.outline ∧ k' = entered.ensureNode c k.scope
  written : ∀ x ∈ id, c = x
  generated : id = none →
    c = numbered settings.subgraphIdStem (k.nextFree settings.subgraphIdStem)

/-- Opening a subgraph settles its id and makes sure of its node. -/
theorem exists_opens (settings : Settings) (k : Sketch) (id : Option String) :
    ∃ c, Opens settings k id c (k.opened settings id) := by
  cases id with
  | none =>
    exact ⟨_, scopes_ensureNode .., ⟨k.perform settings (.enter none), rfl, rfl⟩, nofun,
      fun _ => rfl⟩
  | some id =>
    exact ⟨id, scopes_ensureNode .., ⟨k.perform settings (.enter (some id)), rfl, rfl⟩,
      fun x hx => Option.some.inj hx, nofun⟩

/-- At its end a subgraph that has members is left as it is. -/
theorem perform_elide_of_members (settings : Settings) {c : String} {outer : List String}
    (hscopes : k.scopes = c :: outer) (hmembers : k.outline.nodes.members c ≠ []) :
    k.perform settings .elide = k := by
  obtain ⟨o, defaults, counter, diagnostics, scopes⟩ := k
  subst hscopes
  simp only [perform, Outline.elide, if_neg hmembers]

/-- At its end a subgraph without members goes away. -/
theorem perform_elide_of_empty (settings : Settings) {c : String} {outer : List String}
    (hscopes : k.scopes = c :: outer) (hmembers : k.outline.nodes.members c = []) :
    k.perform settings .elide = { k with outline := k.outline.removeNode c } := by
  obtain ⟨o, defaults, counter, diagnostics, scopes⟩ := k
  subst hscopes
  simp only [perform, Outline.elide, if_pos hmembers]

/-- Making sure of a node adds it at most, and no patch concerns a node that is new. -/
theorem bears_ensureNode {scope : Option String} (hbears : k.outline.Bears named patches)
    (hscope : ∀ c ∈ scope, c ∈ k.outline.nodes.ids) (id : String) :
    k.outline.Extends (k.ensureNode id scope).outline ∧
      (k.ensureNode id scope).outline.Bears named patches := by
  by_cases hid : id ∈ k.outline.nodes.ids
  · rw [ensureNode_of_mem hid]
    exact ⟨.refl _, hbears⟩
  · simp only [ensureNode, if_neg hid, Rows.place_eq_add hscope hid]
    exact ⟨.addNode .., hbears.addNode hid _ _⟩

namespace Opens

variable {id : Option String} {c : String}

/-- The node of a subgraph that has been opened is there. -/
theorem mem_ids (h : Opens settings k id c k') : c ∈ k'.outline.nodes.ids := by
  obtain ⟨entered, -, rfl⟩ := h.node
  exact mem_ids_ensureNode (.inr rfl)

/-- What an outline bears it still bears when a subgraph has been opened in it. -/
theorem bears (h : Opens settings k id c k') (hbears : k.outline.Bears named patches)
    (hscope : ∀ c ∈ k.scope, c ∈ k.outline.nodes.ids) :
    k.outline.Extends k'.outline ∧ k'.outline.Bears named patches := by
  obtain ⟨entered, houtline, rfl⟩ := h.node
  rw [← houtline] at hbears hscope ⊢
  exact bears_ensureNode hbears hscope c

/-- A subgraph whose node is there already opens without being seen. -/
theorem outline_of_mem (h : Opens settings k id c k') (hc : c ∈ k.outline.nodes.ids) :
    k'.outline = k.outline := by
  obtain ⟨entered, houtline, rfl⟩ := h.node
  rw [← houtline] at hc
  rw [ensureNode_of_mem hc, houtline]

/-- A subgraph whose node is new adds it in scope, behind the others. -/
theorem outline_of_not_mem (h : Opens settings k id c k')
    (hscope : ∀ c ∈ k.scope, c ∈ k.outline.nodes.ids) (hc : c ∉ k.outline.nodes.ids) :
    ∃ label, k'.outline = k.outline.extend [⟨c, k.scope, label⟩] := by
  obtain ⟨entered, houtline, rfl⟩ := h.node
  rw [← houtline] at hscope hc ⊢
  simp only [ensureNode, if_neg hc, Rows.place_eq_add hscope hc]
  exact ⟨_, rfl⟩

end Opens

/-! ### What actions lead to -/

/-- A sketch is ready for a statement: the build is strict, patches are absorbed, and the innermost
open subgraph is there. -/
structure Ready (named : List String) (directed : Bool) (holder : Holder) (patches : List Patch)
    (k : Sketch) : Prop where
  directed : k.outline.directed = directed
  strict : k.outline.multigraph = false
  bears : k.outline.Bears named patches
  fits : holder.Fits named k

/-- Actions lead from one sketch to another, which shows what they ask for and absorbs patches. -/
structure Leads (named : List String) (k : Sketch) (actions : List Action) (patches : List Patch)
    (k' : Sketch) : Prop where
  grows : k.outline.Extends k'.outline
  scopes : k'.scopes = k.scopes
  bears : k'.outline.Bears named patches
  shown : ∀ action ∈ actions, action.ShownBy k'.outline

namespace Leads

variable {xs ys : List Action}

/-- What is needed before the actions is there behind them. -/
theorem ready (h : Leads named k xs patches' k') (hk : k.Ready named directed holder patches) :
    k'.Ready named directed holder patches' where
  directed := h.grows.directed.trans hk.directed
  strict := h.grows.multigraph.trans hk.strict
  bears := h.bears
  fits := hk.fits.mono (congrArg List.head? h.scopes) fun _ hid => h.grows.mem_ids hid

/-- Actions can be run one after another. -/
theorem trans (h : Leads named k xs patches k') (h' : Leads named k' ys patches' k'') :
    Leads named k (xs ++ ys) patches' k'' where
  grows := h.grows.trans h'.grows
  scopes := h'.scopes.trans h.scopes
  bears := h'.bears
  shown := List.forall_mem_append.2
    ⟨fun action haction => (h.shown action haction).mono h'.grows, h'.shown⟩

/-- The nodes that are mentioned are there. -/
theorem mem_ids_of_mem_addedIds (h : Leads named k xs patches k') {x : String}
    (hx : x ∈ addedIds xs) : x ∈ k'.outline.nodes.ids := by
  obtain ⟨action, haction, hadded⟩ := List.mem_filterMap.1 hx
  cases action with
  | addNode id =>
    obtain rfl := Option.some.inj hadded
    exact h.shown _ haction
  | _ => cases hadded

/-- An action that leaves the outline as it is. -/
theorem same (hbears : k.outline.Bears named patches) (houtline : k'.outline = k.outline)
    (hscopes : k'.scopes = k.scopes) (hshown : action.ShownBy k'.outline) :
    Leads named k [action] patches k' where
  grows := houtline ▸ .refl _
  scopes := hscopes
  bears := houtline ▸ hbears
  shown := List.forall_mem_singleton.2 hshown

/-- An action that merges into one label. -/
theorem patch {x : Patch} (hbears : (k.outline.patch x).Bears named patches)
    (houtline : k'.outline = k.outline.patch x) (hscopes : k'.scopes = k.scopes)
    (hshown : action.ShownBy k'.outline) : Leads named k [action] patches k' where
  grows := houtline ▸ .patch k.outline x
  scopes := hscopes
  bears := houtline ▸ hbears
  shown := List.forall_mem_singleton.2 hshown

end Leads

/-- A node statement creates its node and leaves one patch on it. -/
theorem Ready.leads_node (h : k.Ready named directed holder patches) {id : String}
    (hid : id ∈ named) (attrs : Attrs) :
    Leads named k (actionsOf (.node id attrs))
      (patches ++ patchesOf settings directed holder (.node id attrs))
      (k.performAll settings (actionsOf (.node id attrs))) := by
  obtain ⟨hextends, hbears⟩ := bears_ensureNode h.bears h.fits.mem_ids id
  have hmem : id ∈ (k.ensureNode id k.scope).outline.nodes.ids := mem_ids_ensureNode (.inr rfl)
  have hadd : Leads named k [.addNode id] patches (k.ensureNode id k.scope) :=
    ⟨hextends, k.scopes_ensureNode id k.scope, hbears, List.forall_mem_singleton.2 hmem⟩
  have hscope : ∀ c ∈ some id, c ∈ (k.ensureNode id k.scope).outline.nodes.ids ∧ c ∈ named :=
    fun c hc => Option.some.inj hc ▸ ⟨hmem, hid⟩
  have houtline := (k.ensureNode id k.scope).outline.patch_onto (some id) attrs
    (nodeGeometry settings attrs)
  have hmerge : Leads named (k.ensureNode id k.scope) [.mergeNode id attrs] _
      ((k.ensureNode id k.scope).perform settings (.mergeNode id attrs)) :=
    .patch (hbears.patch_onto hscope attrs _) houtline.symm rfl trivial
  exact hadd.trans hmerge

/-- Attributes of the enclosing subgraph are merged into the label of its node. -/
theorem Ready.leads_mergeIntoScope (h : k.Ready named directed holder patches) (attrs : Attrs)
    (geometry : Option Geometry) (hshown : ∀ o, action.ShownBy o) :
    Leads named k [action] (patches ++ holder.patches attrs geometry)
      (k.mergeIntoScope k.scope attrs geometry) := by
  have hfits := h.fits
  cases holder with
  | known scope =>
    obtain ⟨hscope, hmem⟩ := hfits
    rw [hscope]
    exact .patch (h.bears.patch_onto hmem attrs geometry) (Outline.patch_onto _ _ _ _).symm rfl
      (hshown _)
  | anonymous =>
    obtain ⟨c, hscope, -, hnamed⟩ := hfits
    rw [hscope, Holder.patches, List.append_nil]
    exact ⟨.relabel k.outline c _, rfl, h.bears.relabel hnamed _,
      List.forall_mem_singleton.2 (hshown _)⟩

/-- In a strict build no edge gets a name. -/
theorem outline_perform_link (settings : Settings) (hstrict : k.outline.multigraph = false)
    (v w : String) (attrs : Attrs) : (k.perform settings (.link v w attrs)).outline =
      k.outline.link v w none (EdgeLabel.ofAttrs k.defaults.current.edge) fun label =>
        label.merge attrs (edgePoints settings attrs) := by
  have hnumber : k.nextNumber v w = none := by
    rw [nextNumber, hstrict]
    exact if_neg fun hmulti => Bool.false_ne_true hmulti.1
  simp only [perform, connect, hnumber, Option.map_none]

/-- In a strict graph a link leaves one patch on the unnamed edge of its ends. -/
theorem Ready.leads_link (h : k.Ready named directed holder patches) {v w : String}
    (hv : v ∈ k.outline.nodes.ids) (hw : w ∈ k.outline.nodes.ids) (attrs : Attrs) :
    Leads named k [.link v w attrs]
      (patches ++ [.edge (EdgeRef.ofEnds directed v w none) attrs (edgePoints settings attrs)])
      (k.perform settings (.link v w attrs)) := by
  have houtline := k.outline_perform_link settings h.strict v w attrs
  obtain ⟨hextends, hmem⟩ := Outline.Extends.link k.outline hv hw none
    (EdgeLabel.ofAttrs k.defaults.current.edge) fun label =>
      label.merge attrs (edgePoints settings attrs)
  have hbears := h.bears.link hv hw (EdgeLabel.ofAttrs k.defaults.current.edge) attrs
    (edgePoints settings attrs)
  rw [← houtline] at hextends hmem hbears
  rw [h.directed] at hbears
  refine ⟨hextends, rfl, hbears, List.forall_mem_singleton.2 ?_⟩
  rwa [Action.ShownBy, hextends.directed]

/-- Links between nodes that are there, one after another. -/
theorem Ready.leads_links {actions : List Action} (h : k.Ready named directed holder patches)
    (hactions : ∀ action ∈ actions, action = .skipElement ∨ ∃ v w attrs,
      action = .link v w attrs ∧ v ∈ k.outline.nodes.ids ∧ w ∈ k.outline.nodes.ids) :
    Leads named k actions (patches ++ actions.filterMap (linkPatch settings directed))
      (k.performAll settings actions) := by
  induction actions generalizing k patches with
  | nil =>
    rw [List.filterMap_nil, List.append_nil]
    exact ⟨.refl _, rfl, h.bears, nofun⟩
  | cons action actions ih =>
    -- the links behind the first one still find their ends, since the nodes have only grown
    have hrest {patches' : List Patch} (hfirst : Leads named k [action] patches'
        (k.perform settings action)) : Leads named k (action :: actions)
          (patches' ++ actions.filterMap (linkPatch settings directed))
          ((k.perform settings action).performAll settings actions) :=
      hfirst.trans <| ih (hfirst.ready h) fun action' haction' =>
        (hactions action' (List.mem_cons_of_mem _ haction')).imp_right
          fun ⟨v, w, attrs, heq, hv, hw⟩ =>
            ⟨v, w, attrs, heq, hfirst.grows.mem_ids hv, hfirst.grows.mem_ids hw⟩
    rcases hactions action List.mem_cons_self with rfl | ⟨v, w, attrs, rfl, hv, hw⟩
    · exact hrest (.same h.bears rfl rfl trivial)
    · have hlink := hrest (h.leads_link hv hw attrs)
      rwa [List.append_assoc] at hlink

/-- What comes behind an element of a chain links nodes that are there, or reports the element. -/
theorem Ready.leads_linkActions (settings : Settings) (h : k.Ready named directed holder patches)
    {prev : List String} {elem : Statement} (hprev : prev ⊆ k.outline.nodes.ids)
    (hnext : nextEnds prev elem ⊆ k.outline.nodes.ids) (attrs : Attrs) :
    Leads named k (linkActions attrs prev elem)
      (patches ++ (linkActions attrs prev elem).filterMap (linkPatch settings directed))
      (k.performAll settings (linkActions attrs prev elem)) := by
  refine h.leads_links fun action haction => ?_
  refine (eq_of_mem_linkActions haction).imp_right fun ⟨v, w, heq⟩ => ?_
  subst heq
  obtain ⟨hv, hw⟩ := mem_of_link_mem_linkActions haction
  exact ⟨v, w, attrs, rfl, hprev hv, hnext hw⟩

/-- A subgraph leads where its statements lead, since it does not go away at its end. -/
theorem Ready.leads_subgraph (h : k.Ready named directed holder patches) {id : Option String}
    {stmts : List Statement} (hid : ∀ x ∈ id, x ∈ named)
    (hundisturbed : k.Undisturbed settings named (actionsOf (.subgraph id stmts)))
    (hbody : ∀ k : Sketch, k.Ready named directed (.ofId id) patches →
      k.Undisturbed settings named (actionsOfAll stmts) →
      Leads named k (actionsOfAll stmts) patches' (k.performAll settings (actionsOfAll stmts))) :
    Leads named k (actionsOf (.subgraph id stmts)) patches'
      (k.performAll settings (actionsOf (.subgraph id stmts))) := by
  rw [performAll_subgraph]
  rw [actionsOf] at hundisturbed ⊢
  obtain ⟨hopening, hclosing⟩ := hundisturbed.append
  obtain ⟨hentering, hinside⟩ := hopening.append
  rw [performAll_append] at hclosing
  obtain ⟨c, hopens⟩ := k.exists_opens settings id
  have hopened : k.performAll settings [.enter id, .addScope] = k.opened settings id := rfl
  rw [hopened] at hclosing hinside
  set opened := k.opened settings id
  obtain ⟨hextends, hbears⟩ := hopens.bears h.bears h.fits.mem_ids
  -- what the body needs: its scope is named if it was written, and outside `named` if not
  have hready : opened.Ready named directed (.ofId id) patches := by
    refine ⟨hextends.directed.trans h.directed, hextends.multigraph.trans h.strict, hbears,
      Holder.fits_ofId (congrArg List.head? hopens.scopes) hopens.mem_ids (fun x hx => ?_)
        fun hnone => ?_⟩
    · exact ⟨hopens.written x hx, (hopens.written x hx).symm ▸ hid x hx⟩
    · subst hnone
      rw [hopens.generated rfl]
      exact hentering [] (.enter none) [.addScope] rfl
  have hstmts := hbody opened hready hinside
  set carriedOut := opened.performAll settings (actionsOfAll stmts)
  have hscopes : carriedOut.scopes = c :: k.scopes := hstmts.scopes.trans hopens.scopes
  have hmem : c ∈ carriedOut.outline.nodes.ids := hstmts.grows.mem_ids hopens.mem_ids
  -- undisturbed actions close no empty subgraph, so the end of this one changes nothing
  have hmembers : carriedOut.outline.nodes.members c ≠ [] :=
    hclosing [] .elide [.leave] rfl c (congrArg List.head? hscopes) hmem
  rw [perform_elide_of_members settings hscopes hmembers]
  refine ⟨hextends.trans hstmts.grows, congrArg List.tail hscopes, hstmts.bears, ?_⟩
  have hentered : (Action.enter id).ShownBy carriedOut.outline := by
    cases id with
    | none => trivial
    | some x => exact hopens.written x rfl ▸ ⟨hmem, hmembers⟩
  intro action haction
  simp only [List.cons_append, List.nil_append, List.mem_cons, List.mem_append,
    List.not_mem_nil, or_false] at haction
  rcases haction with rfl | rfl | haction | rfl | rfl
  · exact hentered
  · trivial
  · exact hstmts.shown action haction
  · trivial
  · trivial

mutual

/-- A statement leads to a sketch that shows what it asks for and absorbs its patches. -/
theorem leads_actionsOf {k : Sketch} {holder : Holder} {patches : List Patch}
    (h : k.Ready named directed holder patches) : ∀ stmt : Statement,
    stmt.writtenIds ⊆ named → k.Undisturbed settings named (actionsOf stmt) →
    Leads named k (actionsOf stmt) (patches ++ patchesOf settings directed holder stmt)
      (k.performAll settings (actionsOf stmt))
  | .node id attrs, hnamed, _ => h.leads_node (hnamed List.mem_cons_self) attrs
  | .edge elems attrs, hnamed, hundisturbed =>
    leads_chainActions h attrs [] (List.nil_subset _) elems hnamed hundisturbed
  | .subgraph id stmts, hnamed, hundisturbed =>
    h.leads_subgraph (fun x hx => hnamed (List.mem_append_left _ (Option.mem_toList.2 hx)))
      hundisturbed fun _ hk hbody =>
        leads_actionsOfAll hk stmts (fun x hx => hnamed (List.mem_append_right _ hx)) hbody
  | .attr .graph attrs, _, _ => h.leads_mergeIntoScope attrs _ fun _ => trivial
  | .attr .node attrs, _, _ => by
    rw [patchesOf, List.append_nil]
    exact .same h.bears rfl rfl trivial
  | .attr .edge attrs, _, _ => by
    rw [patchesOf, List.append_nil]
    exact .same h.bears rfl rfl trivial
  | .inlineAttr attrs, _, _ => h.leads_mergeIntoScope attrs none fun _ => trivial
  | .unknown, _, _ => by
    rw [patchesOf, List.append_nil]
    exact .same h.bears rfl rfl trivial

theorem leads_actionsOfAll {k : Sketch} {holder : Holder} {patches : List Patch}
    (h : k.Ready named directed holder patches) :
    ∀ stmts : List Statement, Statement.writtenIdsOfAll stmts ⊆ named →
    k.Undisturbed settings named (actionsOfAll stmts) →
    Leads named k (actionsOfAll stmts) (patches ++ patchesOfAll settings directed holder stmts)
      (k.performAll settings (actionsOfAll stmts))
  | [], _, _ => by
    rw [patchesOfAll, List.append_nil]
    exact ⟨.refl _, rfl, h.bears, nofun⟩
  | stmt :: rest, hnamed, hundisturbed => by
    obtain ⟨hfirst, hrest⟩ := hundisturbed.append
    have hstmt := leads_actionsOf h stmt (fun x hx => hnamed (List.mem_append_left _ hx)) hfirst
    have hstmts := leads_actionsOfAll (hstmt.ready h) rest
      (fun x hx => hnamed (List.mem_append_right _ hx)) hrest
    rw [actionsOfAll, patchesOfAll, performAll_append, ← List.append_assoc]
    exact hstmt.trans hstmts

theorem leads_chainActions {k : Sketch} {holder : Holder} {patches : List Patch}
    (h : k.Ready named directed holder patches) (attrs : Attrs) (prev : List String)
    (hprev : prev ⊆ k.outline.nodes.ids) :
    ∀ elems : List Statement, Statement.writtenIdsOfAll elems ⊆ named →
    k.Undisturbed settings named (chainActions attrs prev elems) →
    Leads named k (chainActions attrs prev elems)
      (patches ++ chainPatches settings directed holder attrs prev elems)
      (k.performAll settings (chainActions attrs prev elems))
  | [], _, _ => by
    rw [chainPatches, List.append_nil]
    exact ⟨.refl _, rfl, h.bears, nofun⟩
  | elem :: rest, hnamed, hundisturbed => by
    obtain ⟨hfirst, hrest⟩ := hundisturbed.append
    have helem := leads_actionsOf h elem (fun x hx => hnamed (List.mem_append_left _ hx))
      hfirst.append.1
    -- the element has been carried out, so the nodes that it stands for are there
    have hnext : nextEnds prev elem ⊆ (k.performAll settings (actionsOf elem)).outline.nodes.ids :=
      fun x hx => (mem_addedIds_of_mem_nextEnds hx).elim (fun hx => helem.grows.mem_ids (hprev hx))
        fun hx => helem.mem_ids_of_mem_addedIds hx
    have hlinks := (helem.ready h).leads_linkActions settings
      (fun x hx => helem.grows.mem_ids (hprev hx)) hnext attrs
    have hboth := helem.trans hlinks
    rw [← performAll_append] at hlinks hboth
    have hothers := leads_chainActions (hboth.ready h) attrs _
      (fun x hx => hlinks.grows.mem_ids (hnext hx)) rest
      (fun x hx => hnamed (List.mem_append_right _ hx)) hrest
    have hall := hboth.trans hothers
    rw [← performAll_append] at hall
    simpa only [chainActions, chainPatches, List.append_assoc] using hall

end

end Sketch

end Build

end ClusterGraph
