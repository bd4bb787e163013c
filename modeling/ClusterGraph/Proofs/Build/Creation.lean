import ClusterGraph.Proofs.Build.AddedNodes
import ClusterGraph.Proofs.Build.Forest
import ClusterGraph.Proofs.Build.NodeSequence

/-!
# Where the nodes of a build come from

Linking two nodes adds ends that are not there, and putting a node into a scope adds a scope that
is not there, in both cases without attributes and at the top. Statements are carried out in an
order in which neither happens (`InOrder`): the ends of a link have been mentioned by node
statements before, and a subgraph is given its node before anything is put into it.

What can upset this order is the end of a subgraph, which takes its node away. Where none takes away
a node that a node statement mentions or that of a subgraph which is still open (`KeepsMentioned`),
every node of the built graph comes from a place that makes sure of it, with the defaults and the
scope of that place (`build_created`). A nested subgraph with the id of a mentioned node is enough
for the contrary (`not_build_created`).
-/

namespace ClusterGraph.Build

open Statement (push collectIds)

variable {settings : Settings} {doc : Document} {p : Progress} {action : Action}
  {rest : List Action} {id x : String} {scope : Option String}

/-! ### Mentioned nodes -/

/-- The ids of the nodes that actions of node statements make sure of. -/
def addedIds (actions : List Action) : List String :=
  actions.filterMap fun
    | .addNode id => some id
    | _ => none

theorem addedIds_append (xs ys : List Action) : addedIds (xs ++ ys) = addedIds xs ++ addedIds ys :=
  List.filterMap_append

theorem mem_addedIds_actionsOfAll {stmts : List Statement} :
    x ∈ addedIds (actionsOfAll stmts) ↔ ∃ stmt ∈ stmts, x ∈ addedIds (actionsOf stmt) := by
  induction stmts with
  | nil => simp [actionsOfAll, addedIds]
  | cons stmt rest ih => simp [actionsOfAll, addedIds_append, ih]

theorem mem_addedIds_chainActions {elem : Statement} {elems : List Statement} (attrs : Attrs)
    (prev : List String) (helem : elem ∈ elems) (hx : x ∈ addedIds (actionsOf elem)) :
    x ∈ addedIds (chainActions attrs prev elems) := by
  induction elems generalizing prev with
  | nil => cases helem
  | cons first rest ih =>
    rw [chainActions, addedIds_append, addedIds_append]
    rcases List.mem_cons.1 helem with rfl | helem
    · exact List.mem_append_left _ (List.mem_append_left _ hx)
    · exact List.mem_append_right _ (ih _ helem)

/-- What is collected from a stack of statements is mentioned by node statements in it. -/
theorem mem_addedIds_of_mem_collectIds (ids : List String) (stack : List Statement)
    (h : x ∈ collectIds ids stack) : x ∈ ids ∨ x ∈ addedIds (actionsOfAll stack) := by
  have hpush : ∀ (stmt : Statement) (stmts stack : List Statement),
      (∀ inner ∈ stmts, x ∈ addedIds (actionsOf inner) → x ∈ addedIds (actionsOf stmt)) →
      x ∈ addedIds (actionsOfAll (push stmts stack)) →
        x ∈ addedIds (actionsOfAll (stmt :: stack)) := by
    intro stmt stmts stack hinner hmem
    obtain ⟨inner, hmem, hx⟩ := mem_addedIds_actionsOfAll.1 hmem
    rcases List.mem_append.1 hmem with hmem | hmem
    · exact mem_addedIds_actionsOfAll.2
        ⟨stmt, List.mem_cons_self, hinner inner (List.mem_reverse.1 hmem) hx⟩
    · exact mem_addedIds_actionsOfAll.2 ⟨inner, List.mem_cons_of_mem _ hmem, hx⟩
  have hskip : ∀ (stmt : Statement) (stack : List Statement),
      x ∈ addedIds (actionsOfAll stack) → x ∈ addedIds (actionsOfAll (stmt :: stack)) := by
    intro stmt stack hmem
    rw [actionsOfAll, addedIds_append]
    exact List.mem_append_right _ hmem
  -- along the visit: what is still to come is mentioned on the stack
  fun_induction collectIds ids stack with
  | case1 ids => exact .inl h
  | case2 ids node attrs stack ih =>
    rcases ih h with h | h
    · rw [Statement.addId] at h
      split at h
      · exact .inl h
      · rcases List.mem_append.1 h with h | h
        · exact .inl h
        · rw [List.mem_singleton.1 h]
          exact .inr List.mem_cons_self
    · exact .inr (hskip _ stack h)
  | case3 ids elems attrs stack ih =>
    refine (ih h).imp_right (hpush _ elems stack fun inner hmem hx => ?_)
    exact mem_addedIds_chainActions attrs [] hmem hx
  | case4 ids name stmts stack ih =>
    refine (ih h).imp_right (hpush _ stmts stack fun inner hmem hx => ?_)
    rw [actionsOf, addedIds_append, addedIds_append]
    exact List.mem_append_left _
      (List.mem_append_right _ (mem_addedIds_actionsOfAll.2 ⟨inner, hmem, hx⟩))
  | case5 ids target attrs stack ih => exact (ih h).imp_right (hskip _ stack)
  | case6 ids attrs stack ih => exact (ih h).imp_right (hskip _ stack)
  | case7 ids stack ih => exact (ih h).imp_right (hskip _ stack)

/-- What the next element of a chain is linked with is mentioned in this one, or before it. -/
theorem mem_addedIds_of_mem_nextEnds {prev : List String} {elem : Statement}
    (h : x ∈ nextEnds prev elem) : x ∈ prev ∨ x ∈ addedIds (actionsOf elem) := by
  cases elem with
  | node node attrs =>
    rw [List.mem_singleton.1 h]
    exact .inr List.mem_cons_self
  | subgraph name stmts =>
    have hmem := mem_addedIds_of_mem_collectIds [] [.subgraph name stmts] h
    rw [actionsOfAll, actionsOfAll, List.append_nil] at hmem
    exact .inr (hmem.resolve_left List.not_mem_nil)
  | edge | attr | inlineAttr | unknown => exact .inl h

/-- A link leads from the nodes before an element to those that it stands for. -/
theorem mem_of_link_mem_linkActions {attrs attrs' : Attrs} {prev : List String} {elem : Statement}
    {v w : String} (h : .link v w attrs' ∈ linkActions attrs prev elem) :
    v ∈ prev ∧ w ∈ nextEnds prev elem := by
  rw [linkActions] at h
  rw [nextEnds]
  cases hends : endpoints elem with
  | none =>
    rw [hends] at h
    cases List.mem_singleton.1 h
  | some curr =>
    rw [hends] at h
    obtain ⟨v', hv, h⟩ := List.mem_flatMap.1 h
    obtain ⟨w', hw, heq⟩ := List.mem_map.1 h
    cases heq
    exact ⟨hv, hw⟩

/-! ### The order of actions -/

/-- The ends of every link have been mentioned before it, given what has been mentioned before all
actions, and what ends is left at once. -/
def InOrder (seen : List String) : List Action → Prop
  | [] => True
  | .addNode id :: rest => InOrder (id :: seen) rest
  | .link v w _ :: rest => v ∈ seen ∧ w ∈ seen ∧ InOrder seen rest
  | .elide :: rest => rest.head? = some .leave ∧ InOrder seen rest
  | _ :: rest => InOrder seen rest

namespace InOrder

variable {seen seen' : List String} {xs ys : List Action}

theorem mono (h : InOrder seen xs) (hseen : seen ⊆ seen') : InOrder seen' xs := by
  induction xs generalizing seen seen' with
  | nil => trivial
  | cons action xs ih =>
    cases action with
    | addNode id => exact ih h (List.cons_subset_cons id hseen)
    | link v w attrs => exact ⟨hseen h.1, hseen h.2.1, ih h.2.2 hseen⟩
    | elide => exact ⟨h.1, ih h.2 hseen⟩
    | enter | addScope | mergeNode | attr | inlineAttr | skipStatement | skipElement | leave =>
      exact ih h hseen

/-- What the first actions mention may be linked by the others. -/
theorem append (hx : InOrder seen xs) (hy : InOrder (seen ++ addedIds xs) ys) :
    InOrder seen (xs ++ ys) := by
  induction xs generalizing seen with
  | nil => simpa [addedIds] using hy
  | cons action xs ih =>
    cases action with
    | addNode id =>
      have hsubset : seen ++ addedIds (.addNode id :: xs) ⊆ (id :: seen) ++ addedIds xs := by
        intro x hx
        simp only [addedIds, List.filterMap_cons, List.mem_append, List.mem_cons] at hx ⊢
        tauto
      exact ih hx (hy.mono hsubset)
    | link v w attrs => exact ⟨hx.1, hx.2.1, ih hx.2.2 hy⟩
    | elide =>
      obtain ⟨hhead, hrest⟩ := hx
      have happend : (xs ++ ys).head? = some .leave := by
        rw [List.head?_append, hhead]
        rfl
      exact ⟨happend, ih hrest hy⟩
    | enter | addScope | mergeNode | attr | inlineAttr | skipStatement | skipElement | leave =>
      exact ih hx hy

theorem of_links (h : ∀ action ∈ xs, action = .skipElement ∨
    ∃ v w attrs, action = .link v w attrs ∧ v ∈ seen ∧ w ∈ seen) : InOrder seen xs := by
  induction xs with
  | nil => trivial
  | cons action xs ih =>
    have hrest := ih fun action haction => h action (List.mem_cons_of_mem _ haction)
    rcases h action List.mem_cons_self with rfl | ⟨v, w, attrs, rfl, hv, hw⟩
    · exact hrest
    · exact ⟨hv, hw, hrest⟩

theorem linkActions {prev : List String} (attrs : Attrs) (elem : Statement) (hprev : prev ⊆ seen)
    (hnext : nextEnds prev elem ⊆ seen) : InOrder seen (Build.linkActions attrs prev elem) := by
  refine of_links fun action haction => ?_
  rcases eq_of_mem_linkActions haction with rfl | ⟨v, w, rfl⟩
  · exact .inl rfl
  · obtain ⟨hv, hw⟩ := mem_of_link_mem_linkActions haction
    exact .inr ⟨v, w, attrs, rfl, hprev hv, hnext hw⟩

end InOrder

mutual

theorem inOrder_actionsOf (seen : List String) : ∀ stmt : Statement, InOrder seen (actionsOf stmt)
  | .node id attrs => trivial
  | .edge elems attrs => inOrder_chainActions seen attrs [] (List.nil_subset _) elems
  | .subgraph id stmts => by
    have hbody : InOrder seen (actionsOfAll stmts ++ [.elide, .leave]) :=
      (inOrder_actionsOfAll seen stmts).append ⟨rfl, trivial⟩
    rw [actionsOf, List.append_assoc]
    exact hbody
  | .attr target attrs => trivial
  | .inlineAttr attrs => trivial
  | .unknown => trivial

/-- Statements are carried out in order. -/
theorem inOrder_actionsOfAll (seen : List String) :
    ∀ stmts : List Statement, InOrder seen (actionsOfAll stmts)
  | [] => trivial
  | stmt :: rest => (inOrder_actionsOf seen stmt).append (inOrder_actionsOfAll _ rest)

theorem inOrder_chainActions (seen : List String) (attrs : Attrs) (prev : List String)
    (hprev : prev ⊆ seen) : ∀ elems : List Statement, InOrder seen (chainActions attrs prev elems)
  | [] => trivial
  | elem :: rest => by
    have hnext : nextEnds prev elem ⊆ seen ++ addedIds (actionsOf elem) := fun x hx =>
      List.mem_append.2 ((mem_addedIds_of_mem_nextEnds hx).imp_left fun hx => hprev hx)
    have hprev' : prev ⊆ seen ++ addedIds (actionsOf elem) := fun x hx =>
      List.mem_append_left _ (hprev hx)
    have helem : InOrder seen (actionsOf elem ++ linkActions attrs prev elem) :=
      (inOrder_actionsOf seen elem).append (.linkActions attrs elem hprev' hnext)
    refine helem.append (inOrder_chainActions _ attrs _ (fun x hx => ?_) rest)
    rw [addedIds_append, ← List.append_assoc]
    exact List.mem_append_left _ (hnext hx)

end

/-! ### Nodes that stay -/

/-- No end of a subgraph takes away a node that a node statement mentions, or the node of a subgraph
that is still open. -/
def KeepsMentioned (settings : Settings) (doc : Document) : Prop :=
  ∀ p rest, Reaches settings doc p (.elide :: rest) → ∀ x ∈ p.graph.nodeIds,
    x ∈ addedIds (actionsOfAll doc.stmts) ∨ x ∈ p.scopes.tail →
      x ∈ (perform settings p .elide).graph.nodeIds

/-- An action makes sure of a node in a scope. -/
inductive Progress.Ensures (p : Progress) : Action → String → Option String → Prop where
  | addNode (id : String) : p.Ensures (.addNode id) id p.scope
  | addScope {id : String} {outer : List String} (h : p.scopes = id :: outer) :
    p.Ensures .addScope id outer.head?

/-- What the actions to come need is there: the nodes that have been mentioned, and those of the
open subgraphs, but for one that has just been entered or has ended. -/
structure Standing (doc : Document) (p : Progress) (rest : List Action) : Prop where
  order : ∃ seen, InOrder seen rest ∧
    ∀ x ∈ seen, x ∈ p.graph.nodeIds ∧ x ∈ addedIds (actionsOfAll doc.stmts)
  opens : OpensScopes rest
  outer : ∀ c ∈ p.scopes.tail, c ∈ p.graph.nodeIds
  inner : rest.head? ≠ some .addScope → rest.head? ≠ some .leave →
    ∀ c ∈ p.scopes, c ∈ p.graph.nodeIds

theorem Standing.initial (doc : Document) :
    Standing doc (Progress.initial doc) (actionsOfAll doc.stmts) where
  order := ⟨[], inOrder_actionsOfAll [] doc.stmts, fun _ h => absurd h List.not_mem_nil⟩
  opens := opensScopes_actionsOfAll doc.stmts
  outer _ h := absurd h List.not_mem_nil
  inner _ _ _ h := absurd h List.not_mem_nil

/-- The ends of a link have been mentioned, and so they are there. -/
theorem Standing.link {v w : String} {attrs : Attrs}
    (h : Standing doc p (.link v w attrs :: rest)) :
    v ∈ p.graph.nodeIds ∧ w ∈ p.graph.nodeIds := by
  obtain ⟨seen, ⟨hv, hw, -⟩, hseen⟩ := h.order
  exact ⟨(hseen v hv).1, (hseen w hw).1⟩

/-- A node is put into a scope that is there. -/
theorem Standing.ensures (h : Standing doc p (action :: rest)) (he : p.Ensures action id scope) :
    ∀ c ∈ scope, c ∈ p.graph.nodeIds := by
  intro c hc
  cases he with
  | addNode id => exact h.inner nofun nofun c (List.mem_of_mem_head? hc)
  | addScope hscopes =>
    have houter := h.outer
    rw [hscopes] at houter
    exact houter c (List.mem_of_mem_head? hc)

/-- The next action keeps what the actions behind it need. -/
theorem Standing.next (hkeeps : KeepsMentioned settings doc)
    (hreach : Reaches settings doc p (action :: rest)) (h : Standing doc p (action :: rest)) :
    Standing doc (perform settings p action) rest := by
  obtain ⟨⟨seen, horder, hseen⟩, hopens, houter, hinner⟩ := h
  have hadded (hne : action ≠ .elide) : ∀ x ∈ p.graph.nodeIds,
      x ∈ (perform settings p action).graph.nodeIds := (addsNodes_perform settings p hne).mem
  have hseen' (hne : action ≠ .elide) : ∀ x ∈ seen,
      x ∈ (perform settings p action).graph.nodeIds ∧ x ∈ addedIds (actionsOfAll doc.stmts) :=
    fun x hx => ⟨hadded hne x (hseen x hx).1, (hseen x hx).2⟩
  cases action with
  | enter name =>
    have hscopes : ∀ c ∈ p.scopes, c ∈ p.graph.nodeIds := hinner nofun nofun
    exact ⟨⟨seen, horder, hseen' nofun⟩, hopens.tail, fun c hc => hadded nofun c (hscopes c hc),
      fun hhead => absurd hopens.1 hhead⟩
  | addScope =>
    -- the node of the scope that was entered is made sure of, so now all open scopes have theirs
    have hscopes : (perform settings p .addScope).scopes = p.scopes := by
      obtain ⟨s, _ | ⟨id, outer⟩⟩ := p <;> rfl
    refine ⟨⟨seen, horder, hseen' nofun⟩, hopens.tail, fun c hc => ?_, fun _ _ c hc => ?_⟩
    · rw [hscopes] at hc
      exact hadded nofun c (houter c hc)
    · rw [hscopes] at hc
      obtain ⟨s, _ | ⟨id, outer⟩⟩ := p
      · cases hc
      · rcases List.mem_cons.1 hc with rfl | hc
        · exact s.mem_nodeIds_ensureNode c outer.head?
        · exact hadded nofun c (houter c hc)
  | addNode id =>
    have hscopes : ∀ c ∈ p.scopes, c ∈ p.graph.nodeIds := hinner nofun nofun
    have hmention : id ∈ addedIds (actionsOfAll doc.stmts) :=
      List.mem_filterMap.2 ⟨_, hreach.isSuffix.subset List.mem_cons_self, rfl⟩
    -- the node joins those that later links may name
    refine ⟨⟨id :: seen, horder, fun x hx => ?_⟩, hopens.tail, fun c hc => ?_, fun _ _ c hc => ?_⟩
    · rcases List.mem_cons.1 hx with rfl | hx
      · exact ⟨p.state.mem_nodeIds_ensureNode x p.scope, hmention⟩
      · exact hseen' nofun x hx
    · exact hadded nofun c (houter c hc)
    · exact hadded nofun c (hscopes c hc)
  | elide =>
    -- the only action that takes nodes away: of those that matter here it takes none
    have hscopes : (perform settings p .elide).scopes = p.scopes := by
      obtain ⟨s, _ | ⟨id, outer⟩⟩ := p <;> rfl
    refine ⟨⟨seen, horder.2, fun x hx => ?_⟩, hopens.tail, fun c hc => ?_,
      fun _ hhead => absurd horder.1 hhead⟩
    · exact ⟨hkeeps p rest hreach x (hseen x hx).1 (.inl (hseen x hx).2), (hseen x hx).2⟩
    · rw [hscopes] at hc
      exact hkeeps p rest hreach c (houter c hc) (.inr hc)
  | leave =>
    refine ⟨⟨seen, horder, hseen' nofun⟩, hopens.tail, fun c hc => ?_, fun _ _ c hc => ?_⟩
    · -- the innermost scope is gone, and the others had their nodes all along
      exact houter c (List.mem_of_mem_tail hc)
    · exact houter c hc
  | link v w attrs =>
    have hscopes : ∀ c ∈ p.scopes, c ∈ p.graph.nodeIds := hinner nofun nofun
    exact ⟨⟨seen, horder.2.2, hseen' nofun⟩, hopens.tail, fun c hc => hadded nofun c (houter c hc),
      fun _ _ c hc => hadded nofun c (hscopes c hc)⟩
  | mergeNode | attr | inlineAttr | skipStatement | skipElement =>
    have hscopes : ∀ c ∈ p.scopes, c ∈ p.graph.nodeIds := hinner nofun nofun
    exact ⟨⟨seen, horder, hseen' nofun⟩, hopens.tail, fun c hc => hadded nofun c (houter c hc),
      fun _ _ c hc => hadded nofun c (hscopes c hc)⟩

/-- At every point of the build what the actions to come need is there. -/
theorem Reaches.standing (hkeeps : KeepsMentioned settings doc) (h : Reaches settings doc p rest) :
    Standing doc p rest := by
  induction h with
  | initial => exact .initial doc
  | next h ih => exact ih.next hkeeps h

/-! ### New nodes -/

namespace Sketch

variable {k : Sketch}

/-- A new node lies in the scope in which it is made sure of, and starts with the defaults in
force. -/
theorem mem_nodes_ensureNode (hscope : ∀ c ∈ scope, c ∈ k.outline.nodes.ids)
    (hid : id ∉ k.outline.nodes.ids) :
    ⟨id, scope, .ofAttrs k.defaults.current.node⟩ ∈ (k.ensureNode id scope).outline.nodes ∧
      (k.ensureNode id scope).outline.nodes.ids = k.outline.nodes.ids ++ [id] := by
  simp only [ensureNode, if_neg hid, Rows.place_eq_add hscope hid, Rows.ids_add, and_true]
  exact List.mem_append_right _ List.mem_cons_self

/-- No other node is new. -/
theorem eq_of_mem_ids_ensureNode (hscope : ∀ c ∈ scope, c ∈ k.outline.nodes.ids)
    (hx : x ∉ k.outline.nodes.ids) (hx' : x ∈ (k.ensureNode id scope).outline.nodes.ids) :
    x = id ∧ id ∉ k.outline.nodes.ids := by
  by_cases hid : id ∈ k.outline.nodes.ids
  · rw [ensureNode, if_pos hid] at hx'
    exact absurd hx' hx
  · rw [(mem_nodes_ensureNode hscope hid).2] at hx'
    exact ⟨List.mem_singleton.1 ((List.mem_append.1 hx').resolve_left hx), hid⟩

theorem mem_ids_of_mem_ids_elide (hx : x ∈ (k.outline.elide id).nodes.ids) :
    x ∈ k.outline.nodes.ids := by
  rw [Outline.elide] at hx
  split at hx
  · exact (List.filter_sublist.map NodeRow.id).subset hx
  · exact hx

/-- Where the ends of links are there, a node is added only where it is made sure of. -/
theorem mem_ids_of_mem_ids_perform (settings : Settings) (hadd : action ≠ .addScope)
    (hnode : ∀ id, action ≠ .addNode id)
    (hlink : ∀ v w attrs, action = .link v w attrs →
      v ∈ k.outline.nodes.ids ∧ w ∈ k.outline.nodes.ids)
    (hx : x ∈ (k.perform settings action).outline.nodes.ids) : x ∈ k.outline.nodes.ids := by
  cases action with
  | enter name => cases name <;> exact hx
  | addScope => exact absurd rfl hadd
  | addNode id => exact absurd rfl (hnode id)
  | mergeNode id attrs => exact (Rows.ids_relabel _).subst hx
  | attr target attrs =>
    cases target with
    | graph => exact (k.ids_mergeIntoScope k.scope attrs _).subst hx
    | node => exact hx
    | edge => exact hx
  | inlineAttr attrs => exact (k.ids_mergeIntoScope k.scope attrs none).subst hx
  | link v w attrs =>
    obtain ⟨hv, hw⟩ := hlink v w attrs rfl
    -- both ends are there, so the link supplies neither of them
    have hnodes : (k.perform settings (.link v w attrs)).outline.nodes = k.outline.nodes :=
      nodes_connect hv hw attrs _
    rwa [hnodes] at hx
  | skipStatement | skipElement | leave => exact hx
  | elide =>
    cases hscopes : k.scopes with
    | nil => simpa only [perform, hscopes] using hx
    | cons c outer =>
      simp only [perform, hscopes] at hx
      exact mem_ids_of_mem_ids_elide hx

end Sketch

/-- An action creates a node in a scope: it makes sure of a node that is not there. The scope is
there, the node lies in it, and its label holds the node defaults in force. -/
structure Creates (settings : Settings) (p : Progress) (action : Action) (x : String)
    (scope : Option String) : Prop where
  ensures : p.Ensures action x scope
  scope_mem : ∀ c ∈ scope, c ∈ p.graph.nodeIds
  new : x ∉ p.graph.nodeIds
  label : (perform settings p action).graph.node? x =
    some (.ofAttrs p.state.defaults.current.node)
  parent : (perform settings p action).graph.parent? x = scope

/-- Where an action makes sure of a node, it creates the node if it was not there. -/
theorem Reaches.creates (hadmissible : Admissible settings doc)
    (h : Reaches settings doc p (action :: rest)) (hstanding : Standing doc p (action :: rest))
    (hx : x ∉ p.graph.nodeIds) (hx' : x ∈ (perform settings p action).graph.nodeIds) :
    ∃ scope, Creates settings p action x scope := by
  have hsketch := h.sketch_next hadmissible
  have hsound := (Reaches.next h).sound hadmissible
  have hids : p.sketch.outline.nodes.ids = p.graph.nodeIds := p.graph.ids_outline
  have hnew : x ∉ p.sketch.outline.nodes.ids := hids ▸ hx
  have hnew' : x ∈ (p.sketch.perform settings action).outline.nodes.ids := by
    rw [← hsketch]
    exact (perform settings p action).graph.ids_outline ▸ hx'
  -- it is enough to see which node the action makes sure of, and where
  have hcreated : ∀ id scope, p.Ensures action id scope →
      p.sketch.perform settings action = p.sketch.ensureNode id scope →
        Creates settings p action x scope := by
    intro id scope hensures heq
    have hscope := hstanding.ensures hensures
    have hscope' : ∀ c ∈ scope, c ∈ p.sketch.outline.nodes.ids := hids.symm ▸ hscope
    rw [heq] at hnew'
    obtain ⟨rfl, hid⟩ := Sketch.eq_of_mem_ids_ensureNode hscope' hnew hnew'
    have hrow := (Sketch.mem_nodes_ensureNode hscope' hid).1
    rw [← heq, ← hsketch] at hrow
    exact ⟨hensures, hscope, hx, Graph.node?_of_mem hrow,
      Graph.parent?_of_mem hsound.graph.nested.compound hrow⟩
  by_cases hadd : action = .addScope
  · subst hadd
    cases hscopes : p.scopes with
    | nil =>
      have hscopes' : p.sketch.scopes = [] := hscopes
      simp only [Sketch.perform, hscopes'] at hnew'
      exact absurd hnew' hnew
    | cons id outer =>
      have hscopes' : p.sketch.scopes = id :: outer := hscopes
      refine ⟨_, hcreated id _ (.addScope hscopes) ?_⟩
      simp only [Sketch.perform, hscopes']
  by_cases hnode : ∃ id, action = .addNode id
  · obtain ⟨id, rfl⟩ := hnode
    exact ⟨_, hcreated id _ (.addNode id) rfl⟩
  have hlink : ∀ v w attrs, action = .link v w attrs →
      v ∈ p.sketch.outline.nodes.ids ∧ w ∈ p.sketch.outline.nodes.ids := by
    rintro v w attrs rfl
    rw [hids]
    exact hstanding.link
  exact absurd (Sketch.mem_ids_of_mem_ids_perform settings hadd (not_exists.1 hnode) hlink hnew')
    hnew

/-! ### The nodes of the built graph -/

/-- A node that an action has created is there ever since, up to a given point. -/
structure ComesFrom (settings : Settings) (q : Progress) (action : Action) (between : List Action)
    (x : String) (scope : Option String) : Prop where
  creates : Creates settings q action x scope
  stays : ∀ done, done <+: between →
    x ∈ (performAll settings (perform settings q action) done).graph.nodeIds

/-- Every node that is there has been created, and has been there ever since. -/
theorem Reaches.comesFrom (hadmissible : Admissible settings doc)
    (hkeeps : KeepsMentioned settings doc) (h : Reaches settings doc p rest) :
    ∀ x ∈ p.graph.nodeIds, ∃ q action between scope,
      Reaches settings doc q (action :: (between ++ rest)) ∧
      ComesFrom settings q action between x scope := by
  induction h with
  | initial => exact nofun
  | @next p action rest h ih =>
    intro x hx'
    by_cases hx : x ∈ p.graph.nodeIds
    · obtain ⟨q, first, between, scope, hreach, hcomes⟩ := ih x hx
      have hreach' : Reaches settings doc q (first :: ((between ++ [action]) ++ rest)) := by
        rw [List.append_assoc]
        exact hreach
      refine ⟨q, first, between ++ [action], scope, hreach', hcomes.creates, fun done hdone => ?_⟩
      rcases List.prefix_concat_iff.1 hdone with rfl | hdone
      · -- the point reached behind the stretch is the one at hand
        have hat : performAll settings (perform settings q first) between = p :=
          (Reaches.nexts (.next hreach)).unique h
        rw [performAll_append, hat]
        exact hx'
      · exact hcomes.stays done hdone
    · -- the node is new, so this very action has created it
      obtain ⟨scope, hcreates⟩ := h.creates hadmissible (h.standing hkeeps) hx hx'
      refine ⟨p, action, [], scope, h, hcreates, fun done hdone => ?_⟩
      rw [List.prefix_nil.1 hdone]
      exact hx'

/-- Where no mentioned node and no node of an open subgraph goes away, a link finds both of its ends
and a node that is made sure of finds its scope. So no node is added by the way, and where the ids
are plain every node of the built graph has been created by an action that makes sure of it, with
the node defaults in force there and in the scope around it, and lies in that scope ever since. -/
theorem build_created (hkeeps : KeepsMentioned settings doc) :
    (∀ p v w attrs rest, Reaches settings doc p (.link v w attrs :: rest) →
      v ∈ p.graph.nodeIds ∧ w ∈ p.graph.nodeIds) ∧
    (∀ p action rest id scope, Reaches settings doc p (action :: rest) →
      p.Ensures action id scope → ∀ c ∈ scope, c ∈ p.graph.nodeIds) ∧
    (Admissible settings doc → ∀ x ∈ (doc.build settings).graph.nodeIds,
      ∃ q action rest scope, Reaches settings doc q (action :: rest) ∧
        ComesFrom settings q action rest x scope ∧
        (doc.build settings).graph.parent? x = scope) := by
  refine ⟨fun p v w attrs rest h => (h.standing hkeeps).link,
    fun p action rest id scope h => (h.standing hkeeps).ensures, fun hadmissible x hx => ?_⟩
  obtain ⟨q, action, between, scope, hreach, hcomes⟩ :=
    (Reaches.build settings doc).comesFrom hadmissible hkeeps x hx
  rw [List.append_nil] at hreach
  -- the stretch behind the creation goes to the end of the build
  have hnext : Reaches settings doc (perform settings q action) (between ++ []) := by
    rw [List.append_nil]
    exact .next hreach
  have hfinal : performAll settings (perform settings q action) between =
      ⟨statements settings none (start doc) doc.stmts, []⟩ :=
    hnext.nexts.unique (Reaches.build settings doc)
  have hparent := hnext.parent?_performAll hadmissible hcomes.stays
  rw [hfinal, hcomes.creates.parent] at hparent
  exact ⟨q, action, between, scope, hreach, hcomes, hparent⟩

/-- Whether an action takes away no node that is mentioned, and none of a subgraph that is open. -/
def keepsMentionedAt (settings : Settings) (doc : Document) (p : Progress) : Action → Bool
  | .elide => decide (∀ x ∈ p.graph.nodeIds,
      x ∈ addedIds (actionsOfAll doc.stmts) ∨ x ∈ p.scopes.tail →
        x ∈ (perform settings p .elide).graph.nodeIds)
  | _ => true

theorem keepsMentioned_of_everyStep
    (h : everyStep settings (keepsMentionedAt settings doc) (Progress.initial doc)
      (actionsOfAll doc.stmts) = true) : KeepsMentioned settings doc :=
  fun _ _ hreach => of_decide_eq_true (hreach.test_of_everyStep h)

/-- An anonymous subgraph stands in a chain, and a subgraph inside it goes away. -/
def fadingSubgraph : Document where
  kind := .digraph
  strict := false
  id := none
  stmts := [.attr .node (Attrs.ofPairs [("color", "red")]),
    .edge [.node "a" Attrs.empty, .subgraph none [.subgraph (some "t") [],
      .attr .node (Attrs.ofPairs [("shape", "box")]), .node "b" Attrs.empty]] Attrs.empty]

/-- The chain ends at a node that was created in the anonymous subgraph. -/
theorem build_created_fadingSubgraph :
    KeepsMentioned Settings.default fadingSubgraph ∧
    Admissible Settings.default fadingSubgraph ∧
    (fadingSubgraph.build Settings.default).graph.nodeIds = ["a", "sg1", "b"] ∧
    (∀ p v w attrs rest, Reaches Settings.default fadingSubgraph p (.link v w attrs :: rest) →
      v ∈ p.graph.nodeIds ∧ w ∈ p.graph.nodeIds) ∧
    ∃ q action rest, Reaches Settings.default fadingSubgraph q (action :: rest) ∧
      ComesFrom Settings.default q action rest "b" (some "sg1") := by
  have hkeeps : KeepsMentioned Settings.default fadingSubgraph :=
    keepsMentioned_of_everyStep (by decide +kernel)
  have hadmissible : Admissible Settings.default fadingSubgraph := ⟨by decide, by decide⟩
  obtain ⟨hlink, -, hcreated⟩ := build_created hkeeps
  obtain ⟨q, action, rest, scope, hreach, hcomes, hparent⟩ :=
    hcreated hadmissible "b" (by decide +kernel)
  have hscope : (fadingSubgraph.build Settings.default).graph.parent? "b" = some "sg1" := by
    decide +kernel
  obtain rfl : some "sg1" = scope := hscope.symm.trans hparent
  exact ⟨hkeeps, hadmissible, by decide +kernel, hlink, q, action, rest, hreach, hcomes⟩

/-- A subgraph in a chain holds an empty subgraph with the id of the node before it. -/
def endTakenAway : Document where
  kind := .digraph
  strict := false
  id := none
  stmts := [.attr .node (Attrs.ofPairs [("color", "red")]),
    .edge [.node "a" Attrs.empty, .subgraph (some "s") [.subgraph (some "a") [],
      .node "b" Attrs.empty]] Attrs.empty]

/-- The link finds one of its ends gone, and adds it without the defaults. -/
theorem not_build_created :
    ∃ p, Reaches Settings.default endTakenAway p [.link "a" "b" Attrs.empty] ∧
      "a" ∉ p.graph.nodeIds ∧
      p.state.defaults.current.node = Attrs.ofPairs [("color", "red")] ∧
      (endTakenAway.build Settings.default).graph.node? "a" = some (.ofAttrs Attrs.empty) := by
  have hlast : (actionsOfAll endTakenAway.stmts).drop 13 = [.link "a" "b" Attrs.empty] := by
    simp [endTakenAway, actionsOfAll, actionsOf, chainActions, linkActions, nextEnds, endpoints,
      Statement.mentionedIds, collectIds, push, Statement.addId]
  have hinitial : Reaches Settings.default endTakenAway (Progress.initial endTakenAway)
      ((actionsOfAll endTakenAway.stmts).take 13 ++ [.link "a" "b" Attrs.empty]) := by
    rw [← hlast, List.take_append_drop]
    exact .initial
  exact ⟨_, hinitial.nexts, by decide +kernel, by decide +kernel, by decide +kernel⟩

end ClusterGraph.Build
