import ClusterGraph.Proofs.Build.Sketch

/-!
# Builds that keep their nodes

Nodes are taken away only when a subgraph is closed in whose node nothing lies. So a build keeps all
its nodes (`KeepsNodes`) exactly when something lies in every subgraph at its end
(`keepsNodes_iff`), and closing a subgraph then changes nothing (`KeepsNodes.perform_elide`). For a
given document this can be computed (`keepsNodes_of_fillsScopes`).
-/

namespace ClusterGraph

namespace Rows

variable {rows : Rows} {id c x : String} {scope : Option String} {label : PlacedLabel}

theorem mem_ids_supply (h : x ∈ rows.ids) : x ∈ (rows.supply id).ids := by
  rw [supply]
  split
  · exact h
  · rw [ids_add]
    exact List.mem_append_left _ h

/-- A node that is put in its place is there, and so are those before it. -/
theorem mem_ids_place (h : x ∈ rows.ids ∨ x = id) : x ∈ (rows.place id scope label).ids := by
  have hadd : ∀ parent, x ∈ (rows.add id parent label).ids := fun parent => by
    rw [ids_add, List.mem_append, List.mem_singleton]
    exact h
  cases scope with
  | none => exact hadd none
  | some c =>
    rw [place]
    split
    · exact hadd none
    · exact mem_ids_supply (hadd (some c))

end Rows

namespace Build

variable {settings : Settings} {doc : Document} {p : Progress} {action : Action}
  {rest : List Action} {id : String}

/-! ### Which nodes are there behind an action -/

namespace Sketch

variable {k : Sketch}

theorem ids_mergeIntoScope (k : Sketch) (scope : Option String) (attrs : Attrs)
    (geometry : Option Geometry) :
    (k.mergeIntoScope scope attrs geometry).outline.nodes.ids = k.outline.nodes.ids := by
  cases scope with
  | none => rfl
  | some id => exact Rows.ids_relabel _

theorem mem_ids_ensureNode {x : String} {scope : Option String}
    (h : x ∈ k.outline.nodes.ids ∨ x = id) : x ∈ (k.ensureNode id scope).outline.nodes.ids := by
  rw [ensureNode]
  split
  · next hid => exact h.elim (fun hx => hx) fun hx => hx ▸ hid
  · exact Rows.mem_ids_place h

theorem mem_ids_connect {x stem v w : String} {attrs : Attrs} {points : Option (List Point)}
    (h : x ∈ k.outline.nodes.ids) : x ∈ (k.connect stem v w attrs points).outline.nodes.ids := by
  rw [connect, Outline.link]
  dsimp only
  split
  · exact h
  · exact Rows.mem_ids_supply (Rows.mem_ids_supply h)

/-- Only the end of a subgraph takes a node away. -/
theorem mem_ids_perform (settings : Settings) (haction : action ≠ .elide)
    (h : id ∈ k.outline.nodes.ids) :
    id ∈ (k.perform settings action).outline.nodes.ids := by
  cases action with
  | enter name => cases name <;> exact h
  | addScope =>
    cases hscopes : k.scopes with
    | nil => simpa only [perform, hscopes] using h
    | cons c outer => simpa only [perform, hscopes] using mem_ids_ensureNode (.inl h)
  | addNode id => exact mem_ids_ensureNode (.inl h)
  | mergeNode id attrs => exact (Rows.ids_relabel _).symm ▸ h
  | attr target attrs =>
    cases target with
    | graph => exact (k.ids_mergeIntoScope k.scope attrs _).symm ▸ h
    | node => exact h
    | edge => exact h
  | inlineAttr attrs => exact (k.ids_mergeIntoScope k.scope attrs none).symm ▸ h
  | link v w attrs => exact mem_ids_connect h
  | skipStatement | skipElement | leave => exact h
  | elide => exact absurd rfl haction

end Sketch

/-- On a build, as on its sketch, only the end of a subgraph takes a node away. -/
theorem Reaches.mem_nodeIds_perform (hadmissible : Admissible settings doc)
    (h : Reaches settings doc p (action :: rest)) (haction : action ≠ .elide)
    (hid : id ∈ p.graph.nodeIds) : id ∈ (perform settings p action).graph.nodeIds := by
  have hids : id ∈ p.sketch.outline.nodes.ids := p.graph.ids_outline.symm ▸ hid
  have hids' := Sketch.mem_ids_perform settings haction hids
  rw [← h.sketch_next hadmissible] at hids'
  exact (perform settings p action).graph.ids_outline ▸ hids'

/-! ### Open subgraphs -/

/-- Something lies in the innermost open subgraph. -/
def Progress.Filled (p : Progress) : Prop := ∀ id ∈ p.scope, p.graph.children id ≠ []

instance (p : Progress) : Decidable p.Filled := inferInstanceAs (Decidable (∀ id ∈ p.scope, _))

/-- The end of a subgraph in which something lies leaves the build as it is. -/
theorem Progress.Filled.perform_elide (h : p.Filled) (settings : Settings) :
    perform settings p .elide = p := by
  obtain ⟨s, scopes⟩ := p
  cases scopes with
  | nil => rfl
  | cons id outer =>
    have hne : ¬ (s.graph.children id).isEmpty = true := fun hempty =>
      h id rfl (List.isEmpty_iff.1 hempty)
    simp only [perform, if_neg hne]

/-- Every subgraph that is entered gets its node at once. -/
def OpensScopes : List Action → Prop
  | [] => True
  | .enter _ :: rest => rest.head? = some .addScope ∧ OpensScopes rest
  | _ :: rest => OpensScopes rest

theorem OpensScopes.append {xs ys : List Action} (hx : OpensScopes xs) (hy : OpensScopes ys) :
    OpensScopes (xs ++ ys) := by
  induction xs with
  | nil => exact hy
  | cons action xs ih =>
    cases action with
    | enter id =>
      obtain ⟨hhead, hrest⟩ := hx
      have happend : (xs ++ ys).head? = some .addScope := by
        rw [List.head?_append, hhead]
        rfl
      exact ⟨happend, ih hrest⟩
    | _ => exact ih hx

theorem OpensScopes.of_not_mem {actions : List Action} (h : ∀ id, .enter id ∉ actions) :
    OpensScopes actions := by
  induction actions with
  | nil => trivial
  | cons action actions ih =>
    have hrest := ih fun id hmem => h id (List.mem_cons_of_mem _ hmem)
    cases action with
    | enter id => exact absurd List.mem_cons_self (h id)
    | _ => exact hrest

theorem OpensScopes.tail {actions : List Action} (h : OpensScopes (action :: actions)) :
    OpensScopes actions := by
  cases action with
  | enter id => exact h.2
  | _ => exact h

mutual

theorem opensScopes_actionsOf : ∀ stmt : Statement, OpensScopes (actionsOf stmt)
  | .node id attrs => trivial
  | .edge elems attrs => opensScopes_chainActions attrs [] elems
  | .subgraph id stmts => by
    have hbody : OpensScopes (actionsOfAll stmts ++ [.elide, .leave]) :=
      (opensScopes_actionsOfAll stmts).append trivial
    rw [actionsOf, List.append_assoc]
    exact ⟨rfl, hbody⟩
  | .attr target attrs => trivial
  | .inlineAttr attrs => trivial
  | .unknown => trivial

theorem opensScopes_actionsOfAll : ∀ stmts : List Statement, OpensScopes (actionsOfAll stmts)
  | [] => trivial
  | stmt :: rest => (opensScopes_actionsOf stmt).append (opensScopes_actionsOfAll rest)

theorem opensScopes_chainActions (attrs : Attrs) (prev : List String) :
    ∀ elems : List Statement, OpensScopes (chainActions attrs prev elems)
  | [] => trivial
  | elem :: rest => by
    have hlinks : OpensScopes (linkActions attrs prev elem) :=
      .of_not_mem fun id => enter_not_mem_linkActions id attrs prev elem
    exact ((opensScopes_actionsOf elem).append hlinks).append
      (opensScopes_chainActions attrs _ rest)

end

/-! ### Builds that keep their nodes -/

/-- No action of a build takes a node away. -/
def KeepsNodes (settings : Settings) (doc : Document) : Prop :=
  ∀ p action rest, Reaches settings doc p (action :: rest) →
    ∀ id ∈ p.graph.nodeIds, id ∈ (perform settings p action).graph.nodeIds

/-- Only entering and leaving a subgraph change which ones are open. -/
theorem scopes_perform_cases (settings : Settings) (p : Progress) (action : Action) :
    (∃ id, action = .enter id) ∨ action = .leave ∨
      (perform settings p action).scopes = p.scopes := by
  cases action with
  | enter id => exact .inl ⟨id, rfl⟩
  | leave => exact .inr (.inl rfl)
  | addScope =>
    obtain ⟨s, _ | ⟨id, outer⟩⟩ := p <;> exact .inr (.inr rfl)
  | elide =>
    obtain ⟨s, _ | ⟨id, outer⟩⟩ := p <;> exact .inr (.inr rfl)
  | _ => exact .inr (.inr rfl)

/-- The node of a subgraph that has just been entered is added. -/
theorem Reaches.mem_nodeIds_addScope (hadmissible : Admissible settings doc)
    (h : Reaches settings doc p (.addScope :: rest)) {outer : List String}
    (hscopes : p.scopes = id :: outer) : id ∈ (perform settings p .addScope).graph.nodeIds := by
  have hsketch := h.sketch_next hadmissible
  have hscopes' : p.sketch.scopes = id :: outer := hscopes
  rw [← Graph.ids_outline]
  change id ∈ (perform settings p .addScope).sketch.outline.nodes.ids
  rw [hsketch]
  simpa only [Sketch.perform, hscopes'] using Sketch.mem_ids_ensureNode (.inr rfl)

/-- In a build that keeps its nodes, the open subgraphs have their nodes, but for one that has just
been entered. -/
theorem Reaches.scopes_mem (hadmissible : Admissible settings doc)
    (hkeeps : KeepsNodes settings doc) (h : Reaches settings doc p rest) :
    OpensScopes rest ∧ (∀ id ∈ p.scopes.tail, id ∈ p.graph.nodeIds) ∧
      (rest.head? ≠ some .addScope → ∀ id ∈ p.scopes, id ∈ p.graph.nodeIds) := by
  induction h with
  | initial => exact ⟨opensScopes_actionsOfAll doc.stmts, nofun, fun _ => nofun⟩
  | @next p action rest h ih =>
    obtain ⟨hopens, houter, hall⟩ := ih
    have hkept := hkeeps p action rest h
    refine ⟨hopens.tail, ?_⟩
    by_cases hadd : action = .addScope
    · -- the innermost open subgraph, which has just been entered, gets its node
      subst hadd
      have hsame : (perform settings p .addScope).scopes = p.scopes := by
        rcases scopes_perform_cases settings p .addScope with ⟨id, hid⟩ | hid | heq
        · cases hid
        · cases hid
        · exact heq
      have houter' : ∀ id ∈ p.scopes.tail, id ∈ (perform settings p .addScope).graph.nodeIds :=
        fun id hid => hkept id (houter id hid)
      rw [hsame]
      refine ⟨houter', fun _ id hid => ?_⟩
      cases hscopes : p.scopes with
      | nil => rw [hscopes] at hid; cases hid
      | cons c outer =>
        rw [hscopes] at hid houter'
        rcases List.mem_cons.1 hid with rfl | hid
        · exact h.mem_nodeIds_addScope hadmissible hscopes
        · exact houter' id hid
    have hscopes : ∀ id ∈ p.scopes, id ∈ (perform settings p action).graph.nodeIds := by
      refine fun id hid => hkept id (hall ?_ id hid)
      rw [List.head?_cons, Ne, Option.some.injEq]
      exact hadd
    rcases scopes_perform_cases settings p action with ⟨id, rfl⟩ | rfl | heq
    · exact ⟨hscopes, fun hhead => absurd hopens.1 hhead⟩
    · -- behind the end of a subgraph those around it are what is open
      have hinner : ∀ id ∈ p.scopes.tail, id ∈ (perform settings p .leave).graph.nodeIds :=
        fun id hid => hscopes id (List.mem_of_mem_tail hid)
      exact ⟨fun id hid => hinner id (List.mem_of_mem_tail hid), fun _ => hinner⟩
    · rw [heq]
      exact ⟨fun id hid => hscopes id (List.mem_of_mem_tail hid), fun _ => hscopes⟩

/-- A build keeps its nodes exactly when something lies in every subgraph at its end. -/
theorem keepsNodes_iff (hadmissible : Admissible settings doc) : KeepsNodes settings doc ↔
    ∀ p rest, Reaches settings doc p (.elide :: rest) → p.Filled := by
  constructor
  · intro hkeeps p rest h id hid hempty
    obtain ⟨s, scopes⟩ := p
    have hscopes := (h.scopes_mem hadmissible hkeeps).2.2 (by simp)
    have hmem : id ∈ s.graph.nodeIds := hscopes id (List.mem_of_mem_head? hid)
    obtain ⟨outer, rfl⟩ : ∃ outer, scopes = id :: outer := List.head?_eq_some_iff.1 hid
    have hempty' : (s.graph.children id).isEmpty = true := List.isEmpty_iff.2 hempty
    have hsound : s.graph.Sound := (h.sound hadmissible).graph
    have hlisted : s.graph.listed id = [] := by
      rwa [← Graph.children_eq_listed hsound.nested.compound]
    -- the node would be taken away
    have hwithout : Graph.WithoutNode id s.graph (s.removeNode id).graph :=
      hsound.removeWithEdges hlisted
    have hkept := hkeeps _ _ _ h id hmem
    simp only [perform, if_pos hempty', Progress.graph, hwithout.nodeIds, List.mem_filter] at hkept
    exact of_decide_eq_true hkept.2 rfl
  · intro hfilled p action rest h id hid
    by_cases helide : action = .elide
    · subst helide
      rwa [(hfilled p rest h).perform_elide]
    · exact h.mem_nodeIds_perform hadmissible helide hid

/-- In a build that keeps its nodes the end of a subgraph leaves everything as it is. -/
theorem KeepsNodes.perform_elide (hkeeps : KeepsNodes settings doc)
    (hadmissible : Admissible settings doc) (h : Reaches settings doc p (.elide :: rest)) :
    perform settings p .elide = p :=
  ((keepsNodes_iff hadmissible).1 hkeeps p rest h).perform_elide settings

/-- In a build that keeps its nodes, a subgraph is opened, carried out and left. -/
theorem KeepsNodes.performAll_subgraph (hkeeps : KeepsNodes settings doc)
    (hadmissible : Admissible settings doc) {id : Option String} {stmts : List Statement}
    (h : Reaches settings doc p (actionsOf (.subgraph id stmts) ++ rest)) :
    let entered := perform settings p (.enter id)
    let opened := perform settings entered .addScope
    let carriedOut := performAll settings opened (actionsOfAll stmts)
    Reaches settings doc entered (.addScope :: actionsOfAll stmts ++ .elide :: .leave :: rest) ∧
    Reaches settings doc opened (actionsOfAll stmts ++ .elide :: .leave :: rest) ∧
    Reaches settings doc carriedOut (.leave :: rest) ∧
    performAll settings p (actionsOf (.subgraph id stmts)) =
      perform settings carriedOut .leave := by
  intro entered opened carriedOut
  rw [actionsOf, List.append_assoc, List.append_assoc] at h
  have hentered : Reaches settings doc entered
      (.addScope :: actionsOfAll stmts ++ .elide :: .leave :: rest) := .next h
  have hopened : Reaches settings doc opened (actionsOfAll stmts ++ .elide :: .leave :: rest) :=
    .next hentered
  have hclosing : Reaches settings doc carriedOut (.elide :: .leave :: rest) := hopened.nexts
  -- the subgraph is not empty, or its node would go away
  have helide : perform settings carriedOut .elide = carriedOut :=
    hkeeps.perform_elide hadmissible hclosing
  have hleaving := Reaches.next hclosing
  rw [helide] at hleaving
  refine ⟨hentered, hopened, hleaving, ?_⟩
  rw [actionsOf, performAll_append, performAll_append, performAll_cons, performAll_singleton]
  exact congrArg (perform settings · .leave) helide

/-- Whether something lies in every subgraph that given actions close. -/
def fillsScopes (settings : Settings) (p : Progress) : List Action → Bool
  | [] => true
  | .elide :: rest => decide p.Filled && fillsScopes settings (perform settings p .elide) rest
  | action :: rest => fillsScopes settings (perform settings p action) rest

theorem keepsNodes_of_fillsScopes (hadmissible : Admissible settings doc)
    (h : fillsScopes settings (Progress.initial doc) (actionsOfAll doc.stmts) = true) :
    KeepsNodes settings doc := by
  have hpoint : ∀ p rest, Reaches settings doc p rest → fillsScopes settings p rest = true := by
    intro p rest hreach
    induction hreach with
    | initial => exact h
    | @next p action rest _ ih =>
      cases action with
      | elide => exact (Bool.and_eq_true_iff.1 ih).2
      | _ => exact ih
  refine (keepsNodes_iff hadmissible).2 fun p rest hreach => ?_
  exact of_decide_eq_true (Bool.and_eq_true_iff.1 (hpoint p _ hreach)).1

end Build

end ClusterGraph
