import ClusterGraph.Proofs.Build.Absorption
import ClusterGraph.Proofs.Build.FreshIds

/-!
# Statements that are carried out twice

In a strict build a statement that takes no node away may be repeated: carried out once more in the
same scope, it leaves the graph as it was after the first time (`statement_repeat`). The nodes and
edges that it asks for are there by then, so all it does is to merge its patches into their labels
once more, and the graph absorbs them. Each of its anonymous subgraphs is entered with a fresh id,
its node stays behind all others without members, and it goes away again (`Replays`).

This holds as long as no id that is generated for an anonymous subgraph of the statement is written
in the statement itself. Otherwise the attributes of the anonymous subgraph belong to a node with a
written id the first time, and to another one the second time (`not_statement_repeat`).
-/

namespace ClusterGraph

/-! ### Outlines of strict builds -/

/-- What nodes lie in and what edges lie between is there, and two nodes have one edge at most. -/
structure Outline.Closed (o : Outline) : Prop where
  strict : o.multigraph = false
  parents : ∀ entry ∈ o.nodes.frame, ∀ c ∈ entry.2, c ∈ o.nodes.ids
  ends : ∀ ref ∈ o.refs, ∀ id, ref.HasEnd id → id ∈ o.nodes.ids

theorem Graph.Sound.closed_outline {g : Graph} (h : g.Sound) (hstrict : g.multigraph = false) :
    g.outline.Closed := by
  refine ⟨hstrict, fun entry hentry c hc => h.mem_ids_of_mem_frame hentry hc, ?_⟩
  intro ref href id hend
  exact g.ids_outline ▸ h.linked.mem_nodeIds href hend

namespace Build

variable {settings : Settings} {z : Outline} {scopes : List String}
  {opened : List (String × Option String)} {holder : Holder} {patches patches' : List Patch}
  {k k' : Sketch} {action : Action}

namespace Sketch

theorem nextFree_not_mem (k : Sketch) (stem : String) :
    numbered stem (k.nextFree stem) ∉ k.outline.nodes.ids :=
  numbered_freeNumber_not_mem (fun _ => decide_eq_true_iff) (Nat.le_refl _) k.counter

/-! ### The second time -/

/-- A statement is under way for the second time: patches have been applied once more to what was
there after the first time, and behind it lie the nodes of the anonymous subgraphs that are open. -/
structure Replays (z : Outline) (scopes : List String) (opened : List (String × Option String))
    (holder : Holder) (patches : List Patch) (k : Sketch) : Prop where
  outline : ∃ fresh : Rows, fresh.frame = opened ∧ k.outline = (z.patchAll patches).extend fresh
  scopes : k.scopes = scopes
  fits : holder.Fits z.nodes.ids k
  parents : ∀ entry ∈ opened, ∀ c ∈ entry.2, c ∈ k.outline.nodes.ids

namespace Replays

theorem frame_eq (h : Replays z scopes opened holder patches k) :
    k.outline.nodes.frame = z.nodes.frame ++ opened := by
  obtain ⟨fresh, hfresh, houtline⟩ := h.outline
  rw [houtline, Outline.extend, Rows.frame_append, hfresh, Outline.frame_patchAll]

theorem ids_eq (h : Replays z scopes opened holder patches k) :
    k.outline.nodes.ids = z.nodes.ids ++ opened.map Prod.fst := by
  rw [← Rows.map_fst_frame, h.frame_eq, List.map_append, Rows.map_fst_frame]

theorem refs_eq (h : Replays z scopes opened holder patches k) : k.outline.refs = z.refs := by
  obtain ⟨fresh, -, houtline⟩ := h.outline
  rw [houtline]
  exact z.refs_patchAll patches

theorem kind_eq (h : Replays z scopes opened holder patches k) :
    k.outline.directed = z.directed ∧ k.outline.multigraph = z.multigraph := by
  obtain ⟨fresh, -, houtline⟩ := h.outline
  rw [houtline]
  exact z.kind_patchAll patches

/-- Other patches may have been applied, and the labels of the open subgraphs may be others. -/
theorem of_outline (h : Replays z scopes opened holder patches k)
    (houtline : ∃ fresh : Rows, fresh.frame = opened ∧
      k'.outline = (z.patchAll patches').extend fresh) (hscopes : k'.scopes = scopes) :
    Replays z scopes opened holder patches' k' := by
  have hids : k'.outline.nodes.ids = k.outline.nodes.ids := by
    obtain ⟨fresh, hfresh, heq⟩ := houtline
    rw [h.ids_eq, heq, ← Rows.map_fst_frame, Outline.extend, Rows.frame_append, hfresh,
      Outline.frame_patchAll, List.map_append, Rows.map_fst_frame]
  refine ⟨houtline, hscopes, h.fits.mono ?_ fun _ hid => hids ▸ hid, hids ▸ h.parents⟩
  rw [scope, scope, hscopes, h.scopes]

theorem same (h : Replays z scopes opened holder patches k) (houtline : k'.outline = k.outline)
    (hscopes : k'.scopes = k.scopes) : Replays z scopes opened holder patches k' :=
  h.of_outline (houtline ▸ h.outline) (hscopes.trans h.scopes)

/-- A patch is applied once more. -/
theorem patch (h : Replays z scopes opened holder patches k) {x : Patch}
    (houtline : k'.outline = k.outline.patch x) (hscopes : k'.scopes = k.scopes) :
    Replays z scopes opened holder (patches ++ [x]) k' := by
  refine h.of_outline ?_ (hscopes.trans h.scopes)
  obtain ⟨fresh, hfresh, heq⟩ := h.outline
  refine ⟨fresh.map (NodeRow.patch x), ?_, ?_⟩
  · rw [← hfresh]
    simp only [Rows.frame, List.map_map]
    rfl
  · rw [houtline, heq, Outline.patch_extend, Outline.patchAll_append]
    rfl

theorem node (h : Replays z scopes opened holder patches k) {id : String}
    (hid : id ∈ z.nodes.ids) (attrs : Attrs) :
    Replays z scopes opened holder
      (patches ++ patchesOf settings z.directed holder (.node id attrs))
      (k.performAll settings (actionsOf (.node id attrs))) := by
  have hmem : id ∈ k.outline.nodes.ids := h.ids_eq ▸ List.mem_append_left _ hid
  have hadd : k.ensureNode id k.scope = k := ensureNode_of_mem hmem k.scope
  have hmerge : k.performAll settings (actionsOf (.node id attrs)) =
      (k.ensureNode id k.scope).perform settings (.mergeNode id attrs) := rfl
  rw [hmerge, hadd]
  exact h.patch (k.outline.patch_onto (some id) attrs (nodeGeometry settings attrs)).symm rfl

/-- The label of the innermost open subgraph is one of those that are patched, or else it goes
away later. -/
theorem mergeIntoScope (h : Replays z scopes opened holder patches k) (attrs : Attrs)
    (geometry : Option Geometry) :
    Replays z scopes opened holder (patches ++ holder.patches attrs geometry)
      (k.mergeIntoScope k.scope attrs geometry) := by
  have hfits := h.fits
  cases holder with
  | known scope =>
    have houtline := k.outline.patch_onto scope attrs geometry
    rw [hfits.1]
    exact h.patch houtline.symm rfl
  | anonymous =>
    obtain ⟨c, hscope, -, hc⟩ := hfits
    rw [hscope, Holder.patches, List.append_nil]
    refine h.of_outline ?_ h.scopes
    obtain ⟨fresh, hfresh, heq⟩ := h.outline
    have hids : c ∉ (z.patchAll patches).nodes.ids := by
      rwa [← Rows.map_fst_frame, Outline.frame_patchAll, Rows.map_fst_frame]
    refine ⟨fresh.relabel c fun label => label.merge attrs geometry, ?_, ?_⟩
    · rw [Rows.frame_relabel, hfresh]
    · rw [Sketch.mergeIntoScope, heq]
      exact Outline.relabel_extend hids fresh _

/-- Links with edges that are there, one after another. -/
theorem links (settings : Settings) {actions : List Action} (hz : z.Closed)
    (h : Replays z scopes opened holder patches k)
    (hactions : ∀ action ∈ actions, action = .skipElement ∨ ∃ v w attrs,
      action = .link v w attrs ∧ EdgeRef.ofEnds z.directed v w none ∈ z.refs) :
    Replays z scopes opened holder (patches ++ actions.filterMap (linkPatch settings z.directed))
      (k.performAll settings actions) := by
  induction actions generalizing k patches with
  | nil =>
    rw [List.filterMap_nil, List.append_nil]
    exact h
  | cons action actions ih =>
    have hrest := fun action' haction' => hactions action' (List.mem_cons_of_mem _ haction')
    rcases hactions action List.mem_cons_self with rfl | ⟨v, w, attrs, rfl, href⟩
    · exact ih (h.same rfl rfl) hrest
    · -- the edge has been made before, so the link only writes on it
      have hstrict : k.outline.multigraph = false := h.kind_eq.2.trans hz.strict
      have hmem : EdgeRef.ofEnds k.outline.directed v w none ∈ k.outline.refs := by
        rwa [h.kind_eq.1, h.refs_eq]
      have houtline : (k.perform settings (.link v w attrs)).outline = k.outline.patch
          (.edge (EdgeRef.ofEnds z.directed v w none) attrs (edgePoints settings attrs)) := by
        rw [k.outline_perform_link settings hstrict, Outline.link_of_mem _ _ _ hmem,
          Outline.patch_edge, h.kind_eq.1]
      have hlink := ih (h.patch houtline rfl) hrest
      rwa [List.append_assoc] at hlink

/-- A subgraph with an id has been there, with members, so it is there all the time. -/
theorem subgraph_some (h : Replays z scopes opened holder patches k) {id : String}
    {stmts : List Statement} (hid : id ∈ z.nodes.ids) (hmembers : z.nodes.members id ≠ [])
    (hbody : ∀ scopes opened k, Replays z scopes opened (.known (some id)) patches k →
      Replays z scopes opened (.known (some id)) patches'
        (k.performAll settings (actionsOfAll stmts))) :
    Replays z scopes opened holder patches'
      (k.performAll settings (actionsOf (.subgraph (some id) stmts))) := by
  obtain ⟨c, hopens⟩ := k.exists_opens settings (some id)
  obtain rfl : c = id := hopens.written id rfl
  have hmem : c ∈ k.outline.nodes.ids := h.ids_eq ▸ List.mem_append_left _ hid
  have houtline : (k.opened settings (some c)).outline = k.outline := hopens.outline_of_mem hmem
  have hopened : Replays z (c :: scopes) opened (.known (some c)) patches
      (k.opened settings (some c)) := by
    refine ⟨houtline ▸ h.outline, h.scopes ▸ hopens.scopes, ⟨congrArg List.head? hopens.scopes, ?_⟩,
      houtline ▸ h.parents⟩
    exact fun x hx => Option.some.inj hx ▸ ⟨houtline ▸ hmem, hid⟩
  have hstmts := hbody _ _ _ hopened
  -- it has had members, and the body takes no node away, so it stays at its end
  have hmembers' : ((k.opened settings (some c)).performAll settings
      (actionsOfAll stmts)).outline.nodes.members c ≠ [] := by
    refine Rows.members_ne_nil ?_ hmembers
    rw [hstmts.frame_eq]
    exact List.subset_append_left _ _
  rw [performAll_subgraph, perform_elide_of_members settings hstmts.scopes hmembers']
  exact h.of_outline hstmts.outline (congrArg List.tail hstmts.scopes)

/-- An anonymous subgraph is put behind the others for a while. -/
theorem subgraph_none (hz : z.Closed) (h : Replays z scopes opened holder patches k)
    {stmts : List Statement}
    (hbody : ∀ scopes opened k, Replays z scopes opened .anonymous patches k →
      Replays z scopes opened .anonymous patches' (k.performAll settings (actionsOfAll stmts))) :
    Replays z scopes opened holder patches'
      (k.performAll settings (actionsOf (.subgraph none stmts))) := by
  obtain ⟨c, hopens⟩ := k.exists_opens settings none
  have hc : c ∉ k.outline.nodes.ids := by
    rw [hopens.generated rfl]
    exact k.nextFree_not_mem settings.subgraphIdStem
  have hcz : c ∉ z.nodes.ids := fun hmem => hc (h.ids_eq ▸ List.mem_append_left _ hmem)
  have hcopened : c ∉ opened.map Prod.fst := fun hmem =>
    hc (h.ids_eq ▸ List.mem_append_right _ hmem)
  obtain ⟨label, houtline⟩ := hopens.outline_of_not_mem h.fits.mem_ids hc
  have hids : (k.opened settings none).outline.nodes.ids = k.outline.nodes.ids ++ [c] := by
    rw [houtline]
    exact List.map_append
  have hparents : ∀ entry ∈ z.nodes.frame ++ (opened ++ [(c, k.scope)]), ∀ x ∈ entry.2,
      x ∈ k.outline.nodes.ids := by
    refine List.forall_mem_append.2 ⟨fun entry hentry x hx => ?_, List.forall_mem_append.2
      ⟨h.parents, List.forall_mem_singleton.2 h.fits.mem_ids⟩⟩
    exact h.ids_eq ▸ List.mem_append_left _ (hz.parents entry hentry x hx)
  have hopened : Replays z (c :: scopes) (opened ++ [(c, k.scope)]) .anonymous patches
      (k.opened settings none) := by
    obtain ⟨fresh, hfresh, heq⟩ := h.outline
    refine ⟨⟨fresh ++ [⟨c, k.scope, label⟩], ?_, ?_⟩, h.scopes ▸ hopens.scopes,
      ⟨c, congrArg List.head? hopens.scopes, hopens.mem_ids, hcz⟩, fun entry hentry x hx => ?_⟩
    · rw [Rows.frame_append, hfresh]
      rfl
    · rw [houtline, heq]
      exact Outline.ext rfl rfl rfl (List.append_assoc ..) rfl
    · rw [hids]
      exact List.mem_append_left _ (hparents entry (List.mem_append_right _ hentry) x hx)
  have hstmts := hbody _ _ _ hopened
  set carriedOut := (k.opened settings none).performAll settings (actionsOfAll stmts)
  -- nothing has been put into its node, so this is taken out again
  have hmembers : carriedOut.outline.nodes.members c = [] := by
    refine List.eq_nil_iff_forall_not_mem.2 fun x hx => ?_
    rw [Rows.mem_members_iff, hstmts.frame_eq] at hx
    exact hc (hparents _ hx c rfl)
  rw [performAll_subgraph, perform_elide_of_empty settings hstmts.scopes hmembers]
  refine h.of_outline ?_ (congrArg List.tail hstmts.scopes)
  obtain ⟨fresh, hfresh, heq⟩ := hstmts.outline
  have hcids : c ∉ (z.patchAll patches').nodes.ids := by
    rwa [← Rows.map_fst_frame, Outline.frame_patchAll, Rows.map_fst_frame]
  have hends : ∀ ref ∈ (z.patchAll patches').refs, ¬ ref.HasEnd c := fun ref href hend =>
    hcz (hz.ends ref (z.refs_patchAll patches' ▸ href) c hend)
  have hrest : ∀ entry ∈ opened, entry.1 ≠ c := fun entry hentry heq =>
    hcopened (heq ▸ List.mem_map_of_mem hentry)
  refine ⟨fresh.remove c, ?_, ?_⟩
  · rw [Rows.frame_remove, hfresh, List.filter_append,
      List.filter_eq_self.2 fun entry hentry => decide_eq_true (hrest entry hentry)]
    simp
  · exact (congrArg (Outline.removeNode · c) heq).trans
      (Outline.removeNode_extend hcids hends fresh)

end Replays

mutual

/-- What a statement asks for is there by the second time, so it applies its patches once more. -/
theorem replays_actionsOf (hz : z.Closed) {scopes : List String}
    {opened : List (String × Option String)} {holder : Holder} {patches : List Patch} {k : Sketch}
    (h : Replays z scopes opened holder patches k) : ∀ stmt : Statement,
    (∀ action ∈ actionsOf stmt, action.ShownBy z) →
    Replays z scopes opened holder (patches ++ patchesOf settings z.directed holder stmt)
      (k.performAll settings (actionsOf stmt))
  | .node id attrs, hshown => h.node (hshown (.addNode id) List.mem_cons_self) attrs
  | .edge elems attrs, hshown => replays_chainActions hz h attrs [] elems hshown
  | .subgraph (some id) stmts, hshown => by
    obtain ⟨hid, hmembers⟩ : (Action.enter (some id)).ShownBy z := hshown _ List.mem_cons_self
    refine h.subgraph_some hid hmembers fun _ _ _ hk =>
      replays_actionsOfAll hz hk stmts fun action haction => hshown action ?_
    simp [actionsOf, haction]
  | .subgraph none stmts, hshown => by
    refine h.subgraph_none hz fun _ _ _ hk =>
      replays_actionsOfAll hz hk stmts fun action haction => hshown action ?_
    simp [actionsOf, haction]
  | .attr .graph attrs, _ => h.mergeIntoScope attrs _
  | .attr .node attrs, _ => by
    rw [patchesOf, List.append_nil]
    exact h.same rfl rfl
  | .attr .edge attrs, _ => by
    rw [patchesOf, List.append_nil]
    exact h.same rfl rfl
  | .inlineAttr attrs, _ => h.mergeIntoScope attrs none
  | .unknown, _ => by
    rw [patchesOf, List.append_nil]
    exact h.same rfl rfl

theorem replays_actionsOfAll (hz : z.Closed) {scopes : List String}
    {opened : List (String × Option String)} {holder : Holder} {patches : List Patch} {k : Sketch}
    (h : Replays z scopes opened holder patches k) : ∀ stmts : List Statement,
    (∀ action ∈ actionsOfAll stmts, action.ShownBy z) →
    Replays z scopes opened holder (patches ++ patchesOfAll settings z.directed holder stmts)
      (k.performAll settings (actionsOfAll stmts))
  | [], _ => by
    rw [patchesOfAll, List.append_nil]
    exact h
  | stmt :: rest, hshown => by
    obtain ⟨hfirst, hrest⟩ := List.forall_mem_append.1 hshown
    have hstmt := replays_actionsOf hz h stmt hfirst
    have hstmts := replays_actionsOfAll hz hstmt rest hrest
    rwa [← performAll_append, List.append_assoc] at hstmts

theorem replays_chainActions (hz : z.Closed) {scopes : List String}
    {opened : List (String × Option String)} {holder : Holder} {patches : List Patch} {k : Sketch}
    (h : Replays z scopes opened holder patches k) (attrs : Attrs) (prev : List String) :
    ∀ elems : List Statement, (∀ action ∈ chainActions attrs prev elems, action.ShownBy z) →
    Replays z scopes opened holder
      (patches ++ chainPatches settings z.directed holder attrs prev elems)
      (k.performAll settings (chainActions attrs prev elems))
  | [], _ => by
    rw [chainPatches, List.append_nil]
    exact h
  | elem :: rest, hshown => by
    obtain ⟨hfirst, hrest⟩ := List.forall_mem_append.1 hshown
    obtain ⟨helem, hlinks⟩ := List.forall_mem_append.1 hfirst
    have hcarriedOut := replays_actionsOf hz h elem helem
    -- each link of the element has its edge, which shows that it was made the first time
    have hlinks' : ∀ action ∈ linkActions attrs prev elem, action = .skipElement ∨ ∃ v w attrs,
        action = .link v w attrs ∧ EdgeRef.ofEnds z.directed v w none ∈ z.refs := by
      intro action haction
      refine (eq_of_mem_linkActions haction).imp_right fun ⟨v, w, heq⟩ => ?_
      subst heq
      exact ⟨v, w, attrs, rfl, hlinks _ haction⟩
    have hlinked := hcarriedOut.links settings hz hlinks'
    have hothers := replays_chainActions hz hlinked attrs (nextEnds prev elem) rest hrest
    rw [← performAll_append, ← performAll_append, ← List.append_assoc] at hothers
    simpa only [chainActions, chainPatches, List.append_assoc] using hothers

end

/-- A statement that is carried out twice leaves the second time what it has left the first time. -/
theorem outline_twice {named : List String} {k : Sketch} {stmt : Statement}
    (hready : k.Ready named k.outline.directed (.known k.scope) [])
    (hnamed : stmt.writtenIds ⊆ named)
    (hundisturbed : k.Undisturbed settings named (actionsOf stmt))
    (hclosed : (k.performAll settings (actionsOf stmt)).outline.Closed) :
    ((k.performAll settings (actionsOf stmt)).performAll settings (actionsOf stmt)).outline =
      (k.performAll settings (actionsOf stmt)).outline := by
  have hleads := leads_actionsOf hready stmt hnamed hundisturbed
  set once := k.performAll settings (actionsOf stmt)
  have hmem : ∀ c ∈ k.scope, c ∈ once.outline.nodes.ids := fun c hc =>
    hleads.grows.mem_ids (hready.fits.mem_ids c hc)
  have hscope : once.scope = k.scope := congrArg List.head? hleads.scopes
  have hagain : Replays once.outline k.scopes [] (.known k.scope) [] once :=
    ⟨⟨[], rfl, Outline.ext rfl rfl rfl (List.append_nil _).symm rfl⟩, hleads.scopes,
      ⟨hscope, fun c hc => ⟨hmem c hc, hmem c hc⟩⟩, nofun⟩
  have htwice : Replays once.outline k.scopes [] (.known k.scope) _
      (once.performAll settings (actionsOf stmt)) :=
    replays_actionsOf hclosed hagain stmt hleads.shown
  obtain ⟨fresh, hfresh, houtline⟩ := htwice.outline
  obtain rfl : fresh = [] := List.map_eq_nil_iff.1 hfresh
  -- the patches are those of the first time
  have habsorbs := hleads.bears.absorbs
  rw [← hleads.grows.directed] at habsorbs
  exact (houtline.trans (congrArg (Outline.extend · []) habsorbs)).trans
    (Outline.ext rfl rfl rfl (List.append_nil _) rfl)

end Sketch

/-! ### Both times -/

/-- Actions take no node away. -/
def KeepsNodesAlong (settings : Settings) (p : Progress) (actions : List Action) : Prop :=
  ∀ before action after, actions = before ++ action :: after →
    ∀ x ∈ (performAll settings p before).graph.nodeIds,
      x ∈ (perform settings (performAll settings p before) action).graph.nodeIds

/-- No id that actions generate for an anonymous subgraph is one of the given ones. -/
def GeneratesOutside (settings : Settings) (ids : List String) (p : Progress)
    (actions : List Action) : Prop :=
  ∀ before after, actions = before ++ .enter none :: after →
    ((performAll settings p before).state.subgraphId settings.subgraphIdStem none).1 ∉ ids

variable {doc : Document} {p : Progress} {rest : List Action} {actions : List Action}
  {scope : Option String}

theorem KeepsNodesAlong.mem_nodeIds {before after : List Action} {x : String}
    (h : KeepsNodesAlong settings p (before ++ after)) (hx : x ∈ p.graph.nodeIds) :
    x ∈ (performAll settings p before).graph.nodeIds := by
  induction before generalizing p with
  | nil => exact hx
  | cons action before ih =>
    have hrest : KeepsNodesAlong settings (perform settings p action) (before ++ after) :=
      fun before' action' after' heq => h (action :: before') action' after' (congrArg _ heq)
    exact ih hrest (h [] action (before ++ after) rfl x hx)

namespace Progress.Sound

variable {written others : List String}

/-- The id that is generated next is not that of a node, whether or not it is written. -/
theorem permits_enter (h : p.Sound doc)
    (hwritten : (p.state.subgraphId settings.subgraphIdStem none).1 ∉ written)
    (hothers : ∀ c ∈ others, c ∈ p.graph.nodeIds) :
    p.sketch.Permits settings (written ++ others) (.enter none) := by
  have hids : p.sketch.outline.nodes.ids = p.graph.nodeIds := p.graph.ids_outline
  have hfree : p.sketch.nextFree settings.subgraphIdStem =
      p.state.nextFree settings.subgraphIdStem :=
    State.nextFree_sketch h.graph settings.subgraphIdStem p.scopes
  intro hmem
  rcases List.mem_append.1 hmem with hmem | hmem
  · rw [hfree] at hmem
    exact hwritten hmem
  · exact p.sketch.nextFree_not_mem settings.subgraphIdStem (hids ▸ hothers _ hmem)

/-- A subgraph whose node is there behind its end has members. -/
theorem permits_elide (h : p.Sound doc)
    (hkeeps : ∀ x ∈ p.graph.nodeIds, x ∈ (Build.perform settings p .elide).graph.nodeIds)
    (named : List String) : p.sketch.Permits settings named .elide := by
  intro c hc hmem hmembers
  obtain ⟨outer, hscopes⟩ : ∃ outer, p.sketch.scopes = c :: outer := List.head?_eq_some_iff.1 hc
  have helide := Sketch.perform_elide_of_empty settings hscopes hmembers
  rw [← sketch_perform settings h fun _ hid => absurd hid List.not_mem_nil] at helide
  have hgone : c ∉ (Build.perform settings p .elide).sketch.outline.nodes.ids := by
    rw [helide]
    exact Rows.not_mem_ids_remove _ c
  have hkept := hkeeps c (p.graph.ids_outline ▸ hmem)
  exact hgone ((Build.perform settings p .elide).graph.ids_outline ▸ hkept)

/-- What a build does is seen in its sketch: no node is taken away, and nothing is generated that
is written in the statement or that an open subgraph goes by. -/
theorem undisturbed (hadmissible : Admissible settings doc) (h : p.Sound doc)
    (hids : ∀ action ∈ actions, ∀ id ∈ action.ids, IsPlain id)
    (hkeeps : KeepsNodesAlong settings p actions)
    (hgenerates : GeneratesOutside settings written p actions)
    (hscopes : ∀ c ∈ p.scopes, c ∈ p.graph.nodeIds) :
    p.sketch.Undisturbed settings (written ++ p.scopes) actions := by
  rintro before action after rfl
  obtain ⟨hsound, hsketch⟩ := h.sketch_performAll hadmissible fun action haction =>
    hids action (List.mem_append_left _ haction)
  rw [← hsketch]
  cases action with
  | enter id =>
    cases id with
    | some id => trivial
    | none =>
      exact hsound.permits_enter (hgenerates before after rfl) fun c hc =>
        hkeeps.mem_nodeIds (hscopes c hc)
  | elide => exact hsound.permits_elide (hkeeps before .elide after rfl) _
  | addScope | addNode | mergeNode | attr | inlineAttr | link | skipStatement | skipElement
  | leave => trivial

end Progress.Sound

/-- At every point of a strict build, a statement that takes no node away may be repeated: carried
out once more in the same scope it leaves everything that the graph shows as it was, as long as no
id that it generates for an anonymous subgraph is written in it. -/
theorem statement_repeat (hadmissible : Admissible settings doc) (hstrict : doc.strict = true)
    (h : Reaches settings doc p rest) {stmt : Statement}
    (hplain : ∀ id ∈ stmt.writtenIds, IsPlain id) (hscope : ∀ c ∈ scope, c ∈ p.graph.nodeIds)
    (hkeeps : KeepsNodesAlong settings ⟨p.state, scope.toList⟩ (actionsOf stmt))
    (hgenerates : GeneratesOutside settings stmt.writtenIds ⟨p.state, scope.toList⟩
      (actionsOf stmt)) :
    let once := statement settings scope p.state stmt
    (statement settings scope once stmt).graph.snapshot = once.graph.snapshot := by
  intro once
  have hsound := h.sound hadmissible
  have hscopes : ∀ c ∈ scope.toList, c ∈ p.graph.nodeIds := fun c hc =>
    hscope c (Option.mem_toList.1 hc)
  have hsound₀ : Progress.Sound doc ⟨p.state, scope.toList⟩ :=
    ⟨hsound.graph, fun c hc => hsound.graph.nested.plain c (hscopes c hc), hsound.directed,
      hsound.multigraph, hsound.accepted⟩
  have hids : ∀ action ∈ actionsOf stmt, ∀ id ∈ action.ids, IsPlain id :=
    fun action haction id hid => hplain id (mem_writtenIds_of_mem_actionsOf hid stmt haction)
  have hrun (s : State) : performAll settings ⟨s, scope.toList⟩ (actionsOf stmt) =
      ⟨statement settings scope s stmt, scope.toList⟩ := by
    rw [performAll_actionsOf]
    cases scope <;> rfl
  -- both runs as runs of sketches, the second one from where the first one ends
  obtain ⟨hsound₁, hsketch₁⟩ := hsound₀.sketch_performAll hadmissible hids
  rw [hrun] at hsound₁ hsketch₁
  obtain ⟨hsound₂, hsketch₂⟩ := hsound₁.sketch_performAll hadmissible hids
  rw [hrun] at hsound₂ hsketch₂
  -- the scope counts as written too: its node is there, so its id is never generated
  have hready : (Progress.sketch ⟨p.state, scope.toList⟩).Ready (stmt.writtenIds ++ scope.toList)
      p.graph.directed (.known scope.toList.head?) [] := by
    refine ⟨rfl, hsound.multigraph.trans (congrArg not hstrict), .nil _ _, rfl, fun c hc => ?_⟩
    have hmem : c ∈ scope.toList := List.mem_of_mem_head? hc
    exact ⟨p.graph.ids_outline.symm ▸ hscopes c hmem, List.mem_append_right _ hmem⟩
  have hundisturbed := hsound₀.undisturbed hadmissible hids hkeeps hgenerates hscopes
  have hclosed : once.graph.outline.Closed :=
    hsound₁.graph.closed_outline (hsound₁.multigraph.trans (congrArg not hstrict))
  have htwice := Sketch.outline_twice hready (List.subset_append_left _ _) hundisturbed
    (congrArg Sketch.outline hsketch₁ ▸ hclosed)
  rw [← hsketch₁, ← hsketch₂] at htwice
  calc (statement settings scope once stmt).graph.snapshot
      = (statement settings scope once stmt).graph.outline.snapshot := hsound₂.graph.snapshot_eq
    _ = once.graph.outline.snapshot := congrArg Outline.snapshot htwice
    _ = once.graph.snapshot := hsound₁.graph.snapshot_eq.symm

/-- Whether an action takes no node away. -/
def keepsNodesAt (settings : Settings) (p : Progress) (action : Action) : Bool :=
  decide (∀ x ∈ p.graph.nodeIds, x ∈ (perform settings p action).graph.nodeIds)

theorem keepsNodesAlong_of_everyStep
    (h : everyStep settings (keepsNodesAt settings) p actions = true) :
    KeepsNodesAlong settings p actions := by
  rintro before action after rfl
  exact of_decide_eq_true (test_of_everyStep h)

/-- Whether an action generates none of the given ids. -/
def generatesOutsideAt (settings : Settings) (ids : List String) (p : Progress) : Action → Bool
  | .enter none => decide ((p.state.subgraphId settings.subgraphIdStem none).1 ∉ ids)
  | _ => true

theorem generatesOutside_of_everyStep {ids : List String}
    (h : everyStep settings (generatesOutsideAt settings ids) p actions = true) :
    GeneratesOutside settings ids p actions := by
  rintro before after rfl
  exact of_decide_eq_true (test_of_everyStep h)

/-- A strict document with one subgraph. -/
def singleSubgraph : Document where
  kind := .digraph
  strict := true
  id := none
  stmts := [.subgraph (some "s") [.node "a" Attrs.empty]]

/-- A chain with an anonymous subgraph that holds another one, in which attributes of nodes, edges
and the subgraph around it are set more than once. -/
def chainWithAnonymous : Statement :=
  .edge [.node "a" (Attrs.ofPairs [("color", "red")]),
    .subgraph none [.attr .node (Attrs.ofPairs [("shape", "box")]),
      .node "b" (Attrs.ofPairs [("color", "red")]), .inlineAttr (Attrs.ofPairs [("label", "x")]),
      .subgraph none [.node "c" Attrs.empty]],
    .attr .graph (Attrs.ofPairs [("label", "y")]), .node "a" (Attrs.ofPairs [("color", "blue")]),
    .inlineAttr (Attrs.ofPairs [("label", "z")]), .node "b" Attrs.empty]
    (Attrs.ofPairs [("style", "dotted")])

/-- The second pass takes two more numbers for the anonymous subgraphs, and shows the same graph. -/
theorem statement_repeat_chainWithAnonymous :
    let s := statements Settings.default none (start singleSubgraph) singleSubgraph.stmts
    let once := statement Settings.default (some "s") s chainWithAnonymous
    let twice := statement Settings.default (some "s") once chainWithAnonymous
    once.graph.nodeIds = ["s", "a", "sg1", "b", "sg2", "c"] ∧ once.counter = 2 ∧
    twice.counter = 4 ∧ twice.graph.snapshot = once.graph.snapshot := by
  intro s once twice
  have hadmissible : Admissible Settings.default singleSubgraph := ⟨by decide, by decide⟩
  have hreach := Reaches.build Settings.default singleSubgraph
  have hkeeps : KeepsNodesAlong Settings.default ⟨s, ["s"]⟩ (actionsOf chainWithAnonymous) :=
    keepsNodesAlong_of_everyStep (by decide +kernel)
  have hgenerates : GeneratesOutside Settings.default chainWithAnonymous.writtenIds ⟨s, ["s"]⟩
      (actionsOf chainWithAnonymous) :=
    generatesOutside_of_everyStep (by decide +kernel)
  have hscope : "s" ∈ s.graph.nodeIds := by decide +kernel
  exact ⟨by decide +kernel, by decide +kernel, by decide +kernel,
    statement_repeat hadmissible rfl hreach (by decide)
      (fun c hc => Option.some.inj hc ▸ hscope) hkeeps hgenerates⟩

/-- An anonymous subgraph holds a node with the id that is generated for it first. -/
def ownIdInside : Statement :=
  .subgraph none [.node "sg1" (Attrs.ofPairs [("label", "y")]),
    .inlineAttr (Attrs.ofPairs [("label", "z")]), .node "a" Attrs.empty]

/-- A strict document that repeats a statement. -/
def ownIdTwice : Document where
  kind := .digraph
  strict := true
  id := none
  stmts := [ownIdInside, ownIdInside]

/-- The first time the subgraph is the node, and its attributes come last. The second time it is
another node, and only the attributes of the node statement are written on the first one. -/
theorem not_statement_repeat :
    let s := start ownIdTwice
    let once := statement Settings.default none s ownIdInside
    let twice := statement Settings.default none once ownIdInside
    Admissible Settings.default ownIdTwice ∧ ownIdTwice.strict = true ∧
    Reaches Settings.default ownIdTwice ⟨s, []⟩ (actionsOfAll ownIdTwice.stmts) ∧
    KeepsNodesAlong Settings.default ⟨s, []⟩ (actionsOf ownIdInside) ∧
    once.graph.nodeIds = ["sg1", "a"] ∧ twice.graph.nodeIds = ["sg1", "a"] ∧
    once.graph.node? "sg1" = some (.ofAttrs (Attrs.ofPairs [("label", "z")])) ∧
    twice.graph.node? "sg1" = some (.ofAttrs (Attrs.ofPairs [("label", "y")])) ∧
    twice.graph.snapshot ≠ once.graph.snapshot := by
  intro s once twice
  refine ⟨⟨by decide, by decide⟩, rfl, .initial, keepsNodesAlong_of_everyStep (by decide +kernel),
    by decide +kernel, by decide +kernel, by decide +kernel, by decide +kernel, fun heq => ?_⟩
  have hattrs := congrArg (fun snapshot : Snapshot => snapshot.nodes.map NodeSnapshot.attrs) heq
  exact absurd hattrs (by decide +kernel)

end Build

end ClusterGraph
