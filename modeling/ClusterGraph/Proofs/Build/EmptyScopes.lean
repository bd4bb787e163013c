import ClusterGraph.Proofs.Build.NestedScopes
import ClusterGraph.Proofs.Build.OpenNodes

/-!
# Subgraphs without members

A subgraph in which nothing lies at its end goes away, but this is looked at once only. So a node of
the built graph in which nothing lies is either mentioned by a node statement, or it is that of a
subgraph from which a member has been taken away after it was closed (`LosesMembers`,
`build_childless`). The second case does occur, when a later subgraph goes away that has the id of
such a member (`not_build_childless`).

Where no subgraph is given the id of a node statement, only the nodes of subgraphs go away, and
every node that is left holds one that is mentioned, at some depth.
-/

namespace ClusterGraph

namespace Frame

variable {lasting : String → Prop} {frame frame' frame'' : Frame} {stack outer : List String}
  {c id x : String} {scope : Option String}

/-! ### Lasting nodes that are added -/

/-- Lasting nodes are put behind the others one after another, each at the top or in a scope. -/
inductive Mentions (lasting : String → Prop) (scope : Option String) (frame : Frame) :
    Frame → Prop where
  | refl : Mentions lasting scope frame frame
  | place {frame' frame'' : Frame} {id : String} {within : Option String}
      (h : Mentions lasting scope frame frame') (hplaces : Places id within frame' frame'')
      (hid : lasting id) (hwithin : ∀ c ∈ within, scope = some c) :
      Mentions lasting scope frame frame''

theorem Settled.mentions (h : frame.Settled lasting stack)
    (hmentions : Mentions lasting stack.head? frame frame') : frame'.Settled lasting stack := by
  induction hmentions with
  | refl => exact h
  | place _ hplaces hid hwithin ih => exact ih.place hplaces (fun c hc => .inr (hwithin c hc)) hid

/-! ### Nodes in which nothing lies -/

/-- If a node is there and nothing lies in it, it lasts or is open. -/
def Accounted (lasting : String → Prop) (x : String) (stack : List String) (frame : Frame) : Prop :=
  x ∈ frame.ids → (∀ y, ¬ frame.LiesIn y x) → lasting x ∨ x ∈ stack

theorem Accounted.push (h : frame.Accounted lasting x stack) (c : String) :
    frame.Accounted lasting x (c :: stack) :=
  fun hmem hempty => (h hmem hempty).imp_right (List.mem_cons_of_mem c)

theorem Accounted.place (h : frame.Accounted lasting x stack)
    (hplaces : Places id scope frame frame') (hid : lasting id ∨ id ∈ stack)
    (hscope : ∀ c ∈ scope, c ∈ stack) : frame'.Accounted lasting x stack := by
  intro hmem hempty
  obtain ⟨entry, hentry, rfl⟩ := List.mem_map.1 hmem
  rcases hplaces.new entry hentry with hold | ⟨-, ⟨heq, -⟩ | ⟨hin, -⟩⟩
  · exact h (mem_ids hold) fun y hy => hempty y (hplaces.subset hy)
  · exact heq ▸ hid
  · exact .inr (hscope _ hin)

theorem Accounted.mentions (h : frame.Accounted lasting x stack)
    (hmentions : Mentions lasting stack.head? frame frame') : frame'.Accounted lasting x stack := by
  induction hmentions with
  | refl => exact h
  | place _ hplaces hid hwithin ih =>
    exact ih.place hplaces (.inl hid) fun c hc => List.mem_of_mem_head? (hwithin c hc)

/-- A subgraph is closed: its node holds something or is taken away, and nothing else that is not
open loses all that lies in it. -/
theorem Accounted.close (h : frame.Accounted lasting x (c :: outer))
    (hsubset : frame'.ids ⊆ frame.ids)
    (hc : c ∈ frame'.ids → ∃ y, frame'.LiesIn y c)
    (hkeeps : x ∉ c :: outer → (∃ y, frame.LiesIn y x) → ∃ y, frame'.LiesIn y x) :
    frame'.Accounted lasting x outer := by
  intro hmem hempty
  -- a node that is open goes on to be open, unless it is the one that is closed
  by_cases hopen : x ∈ c :: outer
  · rcases List.mem_cons.1 hopen with rfl | houter
    · obtain ⟨y, hy⟩ := hc hmem
      exact absurd hy (hempty y)
    · exact .inr houter
  · have hbefore : ∀ y, ¬ frame.LiesIn y x := fun y hy => by
      obtain ⟨y', hy'⟩ := hkeeps hopen ⟨y, hy⟩
      exact hempty y' hy'
    exact .inl ((h (hsubset hmem) hbefore).resolve_right hopen)

end Frame

namespace Build

variable {settings : Settings} {doc : Document} {p : Progress} {action : Action}
  {actions rest : List Action} {name : Option String} {x : String}

/-! ### Declared nodes -/

/-- An id is that of a node statement, at any depth. -/
def Declares (doc : Document) (x : String) : Prop :=
  ∃ pos attrs, StandsAt doc pos (.node x attrs)

theorem declares_iff : Declares doc x ↔ x ∈ addedIds (actionsOfAll doc.stmts) := by
  constructor
  · rintro ⟨pos, attrs, hstands⟩
    obtain ⟨rest, hreach⟩ : ∃ rest, Reaches Settings.default doc (pos.arrival Settings.default doc)
        (actionsOf (.node x attrs) ++ rest) := hstands.reaches
    have hmem : Action.addNode x ∈ actionsOfAll doc.stmts :=
      hreach.isSuffix.subset List.mem_cons_self
    exact List.mem_filterMap.2 ⟨_, hmem, rfl⟩
  · intro hx
    obtain ⟨action, hmem, hadded⟩ := List.mem_filterMap.1 hx
    cases action with
    | addNode id =>
      obtain rfl := Option.some.inj hadded
      obtain ⟨before, after, hsplit⟩ := List.append_of_mem hmem
      obtain ⟨p, hreach⟩ : ∃ p, Reaches Settings.default doc p (.addNode id :: after) :=
        Reaches.exists_of_isSuffix _ ⟨before, hsplit.symm⟩
      obtain ⟨pos, attrs, hstands, -⟩ := hreach.exists_node
      exact ⟨pos, attrs, hstands⟩
    | _ => cases hadded

/-- The ends of a link have been mentioned. -/
theorem InOrder.mem_of_link {seen : List String} {v w : String} {attrs : Attrs}
    (h : InOrder seen actions) (hlink : .link v w attrs ∈ actions) :
    v ∈ seen ++ addedIds actions ∧ w ∈ seen ++ addedIds actions := by
  induction actions generalizing seen with
  | nil => cases hlink
  | cons action actions ih =>
    -- what has been seen before the rest of the actions is seen or added before all of them
    have hlater {xs : List String} (hin : .link v w attrs ∈ actions) (horder : InOrder xs actions)
        (hxs : xs ++ addedIds actions ⊆ seen ++ addedIds (action :: actions)) :
        v ∈ seen ++ addedIds (action :: actions) ∧ w ∈ seen ++ addedIds (action :: actions) :=
      (ih horder hin).imp (fun hv => hxs hv) fun hw => hxs hw
    cases action with
    | addNode id =>
      refine hlater ((List.mem_cons.1 hlink).resolve_left (by simp)) h fun x hx => ?_
      simp only [addedIds, List.filterMap_cons, List.mem_append, List.mem_cons] at hx ⊢
      tauto
    | link v' w' attrs' =>
      rcases List.mem_cons.1 hlink with heq | hin
      · cases heq
        exact ⟨List.mem_append_left _ h.1, List.mem_append_left _ h.2.1⟩
      · exact hlater hin h.2.2 (List.Subset.refl _)
    | elide =>
      exact hlater ((List.mem_cons.1 hlink).resolve_left (by simp)) h.2 (List.Subset.refl _)
    | enter | addScope | mergeNode | attr | inlineAttr | skipStatement | skipElement | leave =>
      exact hlater ((List.mem_cons.1 hlink).resolve_left (by simp)) h (List.Subset.refl _)

/-- The nodes that an action adds if they are missing, apart from scopes. -/
def Action.mentions : Action → List String
  | .addNode id => [id]
  | .link v w _ => [v, w]
  | _ => []

/-- The nodes that are mentioned, and the ends of links, are declared. -/
theorem declares_of_mem_mentions (haction : action ∈ actionsOfAll doc.stmts)
    (hx : x ∈ action.mentions) : Declares doc x := by
  rw [declares_iff]
  cases action with
  | addNode id =>
    rw [List.mem_singleton.1 hx]
    exact List.mem_filterMap.2 ⟨_, haction, rfl⟩
  | link v w attrs =>
    obtain ⟨hv, hw⟩ := (inOrder_actionsOfAll [] doc.stmts).mem_of_link haction
    rcases List.mem_pair.1 hx with rfl | rfl
    · exact hv
    · exact hw
  | _ => cases hx

/-! ### Steps on frames -/

/-- The nodes of a build with their parents. -/
def Progress.frame (p : Progress) : Frame := p.graph.outline.nodes.frame

theorem Progress.ids_frame (p : Progress) : p.frame.ids = p.graph.nodeIds := by
  rw [Frame.ids, frame, Rows.map_fst_frame, Graph.ids_outline]

namespace Sketch

variable {lasting : String → Prop} {scope : Option String} {k : Sketch}

theorem mentions_supply {frame : Frame} {rows : Rows} {v : String}
    (h : Frame.Mentions lasting scope frame rows.frame) (hv : lasting v) :
    Frame.Mentions lasting scope frame (rows.supply v).frame := by
  by_cases hmem : v ∈ rows.ids
  · rwa [Rows.supply_of_mem hmem]
  · have hplaces := Rows.places_place hmem none (PlacedLabel.ofAttrs Attrs.empty)
    rw [Rows.supply, if_neg hmem]
    exact h.place hplaces hv fun _ h => absurd h (Option.not_mem_none _)

/-- An action inside a scope adds at most what it mentions. -/
theorem mentions_perform (settings : Settings) (hstays : action.staysInScope = true)
    (hmentions : ∀ id ∈ action.mentions, lasting id) :
    Frame.Mentions lasting k.scope k.outline.nodes.frame
      (k.perform settings action).outline.nodes.frame := by
  have hsame {k' : Sketch} (h : k'.outline.nodes.frame = k.outline.nodes.frame) :
      Frame.Mentions lasting k.scope k.outline.nodes.frame k'.outline.nodes.frame :=
    h ▸ .refl
  have hmerge (attrs : Attrs) (geometry : Option Geometry) :
      (k.mergeIntoScope k.scope attrs geometry).outline.nodes.frame = k.outline.nodes.frame := by
    rw [mergeIntoScope]
    cases k.scope with
    | none => rfl
    | some c => exact Rows.frame_relabel _ _ _
  cases action with
  | addNode id =>
    by_cases hmem : id ∈ k.outline.nodes.ids
    · exact hsame (congrArg (fun k : Sketch => k.outline.nodes.frame) (ensureNode_of_mem hmem _))
    · -- a new node lies in the scope, or at the top where it is its own scope
      have hplaces := Rows.places_place hmem k.scope (PlacedLabel.ofAttrs k.defaults.current.node)
      simp only [perform, ensureNode, if_neg hmem]
      exact .place .refl hplaces (hmentions id List.mem_cons_self) fun _ hc => hc
  | mergeNode id attrs => exact hsame (Rows.frame_relabel _ _ _)
  | attr target attrs =>
    cases target with
    | graph => exact hsame (hmerge attrs _)
    | node => exact .refl
    | edge => exact .refl
  | inlineAttr attrs => exact hsame (hmerge attrs none)
  | link v w attrs =>
    have hv : lasting v := hmentions v List.mem_cons_self
    have hw : lasting w := hmentions w (List.mem_cons_of_mem _ List.mem_cons_self)
    dsimp only [perform, connect, Outline.link]
    split
    · exact .refl
    · -- a missing end is added at the top
      exact mentions_supply (mentions_supply .refl hv) hw
  | skipStatement | skipElement => exact .refl
  | enter | addScope | elide | leave => cases hstays

/-- A subgraph is opened in the innermost one that is open. -/
theorem Opens.accounted {c : String} {k' : Sketch} (hopens : Opens settings k name c k')
    (h : Frame.Accounted lasting x k.scopes k.outline.nodes.frame) :
    Frame.Accounted lasting x (c :: k.scopes) k'.outline.nodes.frame := by
  rcases hopens.frame_cases with hsame | hplaces
  · rw [hsame]
    exact h.push c
  · refine (h.push c).place hplaces (.inr List.mem_cons_self) fun s hs => ?_
    exact List.mem_cons_of_mem c (List.mem_of_mem_head? hs)

/-- The innermost open subgraph is closed, and no other node that is not open loses all that lies
in it. -/
theorem accounted_elide {c : String} {outer : List String} (hscopes : k.scopes = c :: outer)
    (h : Frame.Accounted lasting x k.scopes k.outline.nodes.frame)
    (hkeeps : x ∉ k.scopes → (∃ y, Frame.LiesIn k.outline.nodes.frame y x) →
      ∃ y, Frame.LiesIn (k.perform settings .elide).outline.nodes.frame y x) :
    Frame.Accounted lasting x outer (k.perform settings .elide).outline.nodes.frame := by
  rw [hscopes] at h hkeeps
  rcases k.frame_elide_cases settings hscopes with ⟨hmember, hsame⟩ | ⟨-, hremoved⟩
  · rw [hsame] at hkeeps ⊢
    exact h.close (List.Subset.refl _) (fun _ => hmember) hkeeps
  · rw [hremoved] at hkeeps ⊢
    refine h.close (List.map_subset _ List.filter_sublist.subset) (fun hmem => ?_) hkeeps
    obtain ⟨entry, hentry, heq⟩ := List.mem_map.1 hmem
    exact absurd heq (of_decide_eq_true (List.mem_filter.1 hentry).2)

end Sketch

section Steps

variable (hadmissible : Admissible settings doc)

include hadmissible

namespace Reaches

theorem mentions (h : Reaches settings doc p (action :: rest))
    (hstays : action.staysInScope = true) :
    Frame.Mentions (Declares doc) p.scopes.head? p.frame (perform settings p action).frame := by
  have hmentions : ∀ id ∈ action.mentions, Declares doc id := fun id hid =>
    declares_of_mem_mentions (h.isSuffix.subset List.mem_cons_self) hid
  have hperform := p.sketch.mentions_perform settings hstays hmentions
  rwa [← h.sketch_next hadmissible] at hperform

/-- A subgraph is opened with the id that it is given. -/
theorem opens (h : Reaches settings doc p (.enter name :: .addScope :: rest)) :
    Sketch.Opens settings p.sketch name (p.givenId settings name)
      (p.opened settings name).sketch := by
  have hsketch : (p.opened settings name).sketch = p.sketch.opened settings name := by
    rw [Progress.opened, h.next.sketch_next hadmissible, h.sketch_next hadmissible]
    rfl
  obtain ⟨c, hopens⟩ := p.sketch.exists_opens settings name
  rw [← hsketch] at hopens
  have hscopes : (p.opened settings name).scopes = c :: p.scopes := hopens.scopes
  rw [p.scopes_opened, List.cons.injEq] at hscopes
  exact hscopes.1 ▸ hopens

theorem frame_elide (h : Reaches settings doc p (.elide :: rest)) :
    (perform settings p .elide).frame =
      (p.sketch.perform settings .elide).outline.nodes.frame := by
  rw [← h.sketch_next hadmissible]
  rfl

end Reaches

end Steps

/-- In a sound graph, the members of a node are those that lie in it. -/
theorem Progress.Sound.mem_children_iff (h : p.Sound doc) (hx : x ≠ Graph.rootId) {y : String} :
    y ∈ p.graph.children x ↔ p.frame.LiesIn y x := by
  rw [h.graph.nested.children_eq hx, Rows.mem_members_iff]
  rfl

/-! ### Members that are taken away later -/

/-- The end of a subgraph takes away all that lies in a node that is not open. -/
def LosesMembers (settings : Settings) (doc : Document) (x : String) : Prop :=
  ∃ p rest, Reaches settings doc p (.elide :: rest) ∧ x ∉ p.scopes ∧
    p.graph.children x ≠ [] ∧ (perform settings p .elide).graph.children x = []

/-- Through balanced actions, a node in which nothing lies is declared or open, unless it loses its
members after it has been closed. -/
theorem Balanced.accounted (hadmissible : Admissible settings doc) (hx : x ≠ Graph.rootId)
    (hkeeps : ¬ LosesMembers settings doc x) (h : Balanced actions)
    (hreach : Reaches settings doc p (actions ++ rest))
    (hp : p.frame.Accounted (Declares doc) x p.scopes) :
    (performAll settings p actions).frame.Accounted (Declares doc) x
      (performAll settings p actions).scopes := by
  refine h.invariant (P := fun p => p.frame.Accounted (Declares doc) x p.scopes) ?_ ?_ ?_ hreach hp
  · intro p action rest hreach hstays hp
    rw [scopes_perform_of_staysInScope settings p hstays]
    exact hp.mentions (hreach.mentions hadmissible hstays)
  · intro p name rest hreach hp
    rw [p.scopes_opened]
    exact (hreach.opens hadmissible).accounted hp
  · intro p c outer rest hreach hscopes hp
    have helide := hreach.frame_elide hadmissible
    have hclosed : (p.closed settings).frame = (perform settings p .elide).frame := rfl
    rw [p.scopes_closed, hscopes, List.tail_cons, hclosed, helide]
    refine Sketch.accounted_elide hscopes hp fun hopen ⟨y, hy⟩ => ?_
    -- what lies in the node is not all taken away, since this is what is excluded
    by_contra hnone
    refine hkeeps ⟨p, _, hreach, hopen, ?_, List.eq_nil_iff_forall_not_mem.2 fun z hz => ?_⟩
    · exact List.ne_nil_of_mem (((hreach.sound hadmissible).mem_children_iff hx).2 hy)
    · have hlies := ((hreach.next.sound hadmissible).mem_children_iff hx).1 hz
      rw [helide] at hlies
      exact hnone ⟨z, hlies⟩

/-! ### Subgraphs with ids of their own -/

/-- No subgraph is given the id of a node statement. -/
def GivesUndeclared (settings : Settings) (doc : Document) : Prop :=
  ∀ pos name stmts, StandsAt doc pos (.subgraph name stmts) →
    ¬ Declares doc (pos.givenId settings doc name)

theorem GivesUndeclared.not_declares (h : GivesUndeclared settings doc)
    (hreach : Reaches settings doc p (.enter name :: rest)) :
    ¬ Declares doc (p.givenId settings name) := by
  obtain ⟨pos, stmts, hstands, rfl⟩ := hreach.exists_subgraph
  exact h pos name stmts hstands

/-- No subgraph that is open is declared, and every node holds one that is, or is open in order. -/
structure Progress.Inhabited (doc : Document) (p : Progress) : Prop where
  undeclared : ∀ c ∈ p.scopes, ¬ Declares doc c
  settled : p.frame.Settled (Declares doc) p.scopes

/-- Through balanced actions, every node holds one that is declared, or is open in order, as long as
no subgraph is given the id of a node statement. -/
theorem Balanced.inhabited (hadmissible : Admissible settings doc)
    (hgives : GivesUndeclared settings doc) (h : Balanced actions)
    (hreach : Reaches settings doc p (actions ++ rest)) (hp : p.Inhabited doc) :
    (performAll settings p actions).Inhabited doc := by
  refine h.invariant (P := fun p => p.Inhabited doc) ?_ ?_ ?_ hreach hp
  · intro p action rest hreach hstays hp
    have hscopes := scopes_perform_of_staysInScope settings p hstays
    exact ⟨hscopes ▸ hp.undeclared,
      hscopes ▸ hp.settled.mentions (hreach.mentions hadmissible hstays)⟩
  · intro p name rest hreach hp
    have hscopes := p.scopes_opened settings name
    constructor
    · rw [hscopes]
      exact List.forall_mem_cons.2 ⟨hgives.not_declares hreach, hp.undeclared⟩
    · rw [hscopes]
      exact (hreach.opens hadmissible).settled hp.settled fun c hc => .inr hc
  · intro p c outer rest hreach hscopes hp
    -- the node that goes away is not declared, so what is declared is left where it lies
    obtain ⟨hc, houter⟩ := List.forall_mem_cons.1 (hscopes ▸ hp.undeclared)
    have hclosed : (p.closed settings).frame =
        (p.sketch.perform settings .elide).outline.nodes.frame := hreach.frame_elide hadmissible
    have houterScopes : (p.closed settings).scopes = outer := by
      rw [p.scopes_closed, hscopes, List.tail_cons]
    refine ⟨houterScopes ▸ houter, ?_⟩
    rw [houterScopes, hclosed]
    refine Sketch.settled_elide settings (congrArg List.head? hscopes) ?_ hc
    exact hscopes ▸ hp.settled

/-- When no subgraph is open any more, every node holds one that is declared. -/
theorem Progress.Inhabited.holds (h : p.Inhabited doc) (hsound : p.Sound doc)
    (hscopes : p.scopes = []) (hx : x ∈ p.graph.nodeIds) :
    Holds (Declares doc) (fun y x => y ∈ p.graph.children x) x := by
  have hsettled : p.frame.Settled (Declares doc) [] := hscopes ▸ h.settled
  have hframe := (hsettled.of_mem_ids (p.ids_frame ▸ hx)).resolve_right fun hopen => hopen
  refine hframe.imp fun y x _ hy => ?_
  have hmem : x ∈ p.graph.nodeIds := p.ids_frame ▸ hsettled.closed _ hy x rfl
  exact (hsound.mem_children_iff (hsound.graph.nested.plain x hmem).ne_rootId).2 hy

/-! ### Built graphs -/

/-- A node of the built graph in which nothing lies is mentioned by a node statement, unless all
that lay in it has been taken away after it was closed. Where no subgraph is given the id of a node
statement, every node holds one that is mentioned, at some depth. -/
theorem build_childless (hadmissible : Admissible settings doc) :
    (∀ x ∈ (doc.build settings).graph.nodeIds, (doc.build settings).graph.children x = [] →
      ¬ LosesMembers settings doc x → Declares doc x) ∧
    (GivesUndeclared settings doc →
      (∀ x ∈ (doc.build settings).graph.nodeIds, (doc.build settings).graph.children x = [] →
        Declares doc x) ∧
      ∀ x ∈ (doc.build settings).graph.nodeIds,
        Holds (Declares doc) (fun y x => y ∈ (doc.build settings).graph.children x) x) := by
  have hbalanced := balanced_actionsOfAll doc.stmts
  have hall := Reaches.initial_append_nil settings doc
  have hfinal : performAll settings (Progress.initial doc) (actionsOfAll doc.stmts) =
      ⟨statements settings none (start doc) doc.stmts, []⟩ := performAll_actionsOfAll ..
  have hsound := (Reaches.build settings doc).sound hadmissible
  constructor
  · intro x hx hempty hkeeps
    have hroot : x ≠ Graph.rootId := (hsound.graph.nested.plain x hx).ne_rootId
    have haccounted := hbalanced.accounted hadmissible hroot hkeeps hall nofun
    rw [hfinal] at haccounted
    -- at the end of the build no subgraph is open
    refine (haccounted (Progress.ids_frame _ ▸ hx) fun y hy => ?_).resolve_right List.not_mem_nil
    have hmem : y ∈ (doc.build settings).graph.children x := (hsound.mem_children_iff hroot).2 hy
    rw [hempty] at hmem
    cases hmem
  · intro hgives
    have hstart : (Progress.initial doc).Inhabited doc := ⟨nofun, nofun, nofun⟩
    have hinhabited := hbalanced.inhabited hadmissible hgives hall hstart
    rw [hfinal] at hinhabited
    have hholds : ∀ x ∈ (doc.build settings).graph.nodeIds, Holds (Declares doc)
        (fun y x => y ∈ (doc.build settings).graph.children x) x :=
      fun x hx => hinhabited.holds hsound rfl hx
    refine ⟨fun x hx hempty => ?_, hholds⟩
    cases hholds x hx with
    | self hdeclares => exact hdeclares
    | member hy =>
      rw [hempty] at hy
      cases hy

/-- Whether an action enters no subgraph with the id of a node statement. -/
def givesUndeclaredAt (settings : Settings) (doc : Document) (p : Progress) : Action → Bool
  | .enter name => decide (p.givenId settings name ∉ addedIds (actionsOfAll doc.stmts))
  | _ => true

/-- For a given document it can be computed that no subgraph is given the id of a node statement. -/
theorem givesUndeclared_of_everyStep (h : everyStep settings (givesUndeclaredAt settings doc)
    (Progress.initial doc) (actionsOfAll doc.stmts) = true) : GivesUndeclared settings doc := by
  intro pos name stmts hstands hdeclares
  obtain ⟨rest, hreach⟩ : ∃ rest, Reaches settings doc (pos.arrival settings doc)
      (actionsOf (.subgraph name stmts) ++ rest) := hstands.reaches
  have htest := hreach.test_of_everyStep h
  exact of_decide_eq_true htest (declares_iff.1 hdeclares)

/-- Whether an end of a subgraph leaves something in a node that is not open. -/
def keepsMembersAt (settings : Settings) (x : String) (p : Progress) : Action → Bool
  | .elide => decide (x ∈ p.scopes ∨ p.graph.children x = [] ∨
      (perform settings p .elide).graph.children x ≠ [])
  | _ => true

/-- For a given document it can be computed that a node does not lose its members. -/
theorem not_losesMembers_of_everyStep (h : everyStep settings (keepsMembersAt settings x)
    (Progress.initial doc) (actionsOfAll doc.stmts) = true) : ¬ LosesMembers settings doc x := by
  rintro ⟨p, rest, hreach, hopen, hbefore, hbehind⟩
  rcases of_decide_eq_true (hreach.test_of_everyStep h) with hscope | hempty | hleft
  · exact hopen hscope
  · exact hbefore hempty
  · exact hleft hbehind

/-- Of two subgraphs inside a subgraph, one is empty, and an anonymous one holds the nodes. -/
def elidedSubgraphs : Document where
  kind := .digraph
  strict := false
  id := none
  stmts := [.subgraph (some "s") [
    .subgraph (some "t") [.attr .node (Attrs.ofPairs [("color", "red")])],
    .subgraph none [.edge [.node "a" Attrs.empty, .node "b" Attrs.empty] Attrs.empty]]]

/-- A subgraph with two members, one of which an empty subgraph takes away. -/
def sharedId : Document where
  kind := .digraph
  strict := false
  id := none
  stmts := [.subgraph (some "s") [.node "a" Attrs.empty, .node "b" Attrs.empty],
    .subgraph (some "a") []]

/-- The empty subgraph is gone, and the anonymous one holds its two nodes. -/
theorem build_childless_elidedSubgraphs :
    Admissible Settings.default elidedSubgraphs ∧
    GivesUndeclared Settings.default elidedSubgraphs ∧
    (elidedSubgraphs.build Settings.default).graph.nodeIds = ["s", "sg1", "a", "b"] ∧
    (∀ x ∈ (elidedSubgraphs.build Settings.default).graph.nodeIds,
      (elidedSubgraphs.build Settings.default).graph.children x = [] →
        Declares elidedSubgraphs x) ∧
    Holds (Declares elidedSubgraphs)
      (fun y x => y ∈ (elidedSubgraphs.build Settings.default).graph.children x) "s" ∧
    Admissible Settings.default sharedId ∧
    (sharedId.build Settings.default).graph.nodeIds = ["s", "b"] ∧
    (sharedId.build Settings.default).graph.children "b" = [] ∧
    ¬ LosesMembers Settings.default sharedId "b" ∧ Declares sharedId "b" := by
  have hadmissible : Admissible Settings.default elidedSubgraphs := ⟨by decide, by decide⟩
  have hgives : GivesUndeclared Settings.default elidedSubgraphs :=
    givesUndeclared_of_everyStep (by decide +kernel)
  obtain ⟨hdeclared, hholds⟩ := (build_childless hadmissible).2 hgives
  have hshared : Admissible Settings.default sharedId := ⟨by decide, by decide⟩
  have hempty : (sharedId.build Settings.default).graph.children "b" = [] := by decide +kernel
  have hkeeps : ¬ LosesMembers Settings.default sharedId "b" :=
    not_losesMembers_of_everyStep (by decide +kernel)
  exact ⟨hadmissible, hgives, by decide +kernel, hdeclared, hholds "s" (by decide +kernel), hshared,
    by decide +kernel, hempty, hkeeps,
    (build_childless hshared).1 "b" (by decide +kernel) hempty hkeeps⟩

/-- A subgraph with a member, and behind it an empty one with the id of this member. -/
def emptiedSubgraph : Document where
  kind := .digraph
  strict := false
  id := none
  stmts := [.subgraph (some "s") [.node "a" Attrs.empty], .subgraph (some "a") []]

/-- The second subgraph goes away and takes along the only member of the first one, which is closed
and stays. -/
theorem not_build_childless :
    Admissible Settings.default emptiedSubgraph ∧
    "s" ∈ (emptiedSubgraph.build Settings.default).graph.nodeIds ∧
    (emptiedSubgraph.build Settings.default).graph.children "s" = [] ∧
    ¬ Declares emptiedSubgraph "s" := by
  refine ⟨⟨by decide, by decide⟩, by decide +kernel, by decide +kernel, ?_⟩
  rw [declares_iff]
  decide

end Build

end ClusterGraph
