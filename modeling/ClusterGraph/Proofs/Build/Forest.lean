import ClusterGraph.Proofs.Build.Steps

/-!
# The nesting during a build

Subgraphs may bear the id of a node, lie in themselves, go away while they are still open, and come
back elsewhere. The nesting stays a forest all the same (`Graph.IsForest`): a node is put into
another one only when it has just been added, and is removed only when nothing lies in it. So a
node never changes its place as long as it is there, and the graph refuses no nesting and no edge
(`Build.reaches_isForest`).
-/

namespace ClusterGraph

/-! ### Paths of parents -/

namespace Graph

variable {g g' : Graph} {id p : String} {path path' : List String}

/-- The nodes that are met when parents are followed from a node, up to one without a parent. -/
inductive ParentPath (g : Graph) : String → List String → Prop where
  | root {id : String} (hid : id ∈ g.nodeIds) (h : g.parent? id = none) : ParentPath g id [id]
  | inside {id p : String} {path : List String} (h : g.parent? id = some p)
      (hpath : ParentPath g p path) : ParentPath g id (id :: path)

/-- Parents lead from every node to a node without a parent, and never to the same node twice. -/
def IsForest (g : Graph) : Prop := ∀ id ∈ g.nodeIds, ∃ path, g.ParentPath id path ∧ path.Nodup

namespace ParentPath

/-- There is one way to follow parents. -/
theorem unique (h : g.ParentPath id path) (h' : g.ParentPath id path') : path = path' := by
  induction h generalizing path' with
  | root _ hroot =>
    cases h' with
    | root => rfl
    | inside hparent => cases hroot.symm.trans hparent
  | inside hparent _ ih =>
    cases h' with
    | root _ hroot => cases hroot.symm.trans hparent
    | inside hparent' hpath' =>
      obtain rfl := Option.some.inj (hparent.symm.trans hparent')
      rw [ih hpath']

/-- The path of a node that is met is a last part of the path. -/
theorem exists_suffix {x : String} (h : g.ParentPath id path) (hx : x ∈ path) :
    ∃ path', g.ParentPath x path' ∧ path' <:+ path := by
  induction h with
  | root hid hroot =>
    obtain rfl := List.mem_singleton.1 hx
    exact ⟨_, .root hid hroot, List.suffix_refl _⟩
  | inside hparent hpath ih =>
    rcases List.mem_cons.1 hx with rfl | hx
    · exact ⟨_, .inside hparent hpath, List.suffix_refl _⟩
    · obtain ⟨path', hpath', hsuffix⟩ := ih hx
      exact ⟨path', hpath', hsuffix.trans (List.suffix_cons _ _)⟩

/-- A path that came back to its first node would be a proper part of itself. -/
theorem nodup (h : g.ParentPath id path) : path.Nodup := by
  induction h with
  | root => exact List.nodup_singleton _
  | inside hparent hpath ih =>
    refine List.nodup_cons.2 ⟨fun hmem => ?_, ih⟩
    obtain ⟨path', hpath', hsuffix⟩ := hpath.exists_suffix hmem
    have hlength := hsuffix.length_le
    rw [← (ParentPath.inside hparent hpath).unique hpath', List.length_cons] at hlength
    omega

end ParentPath

theorem Nested.isForest (h : g.Nested) : g.IsForest := by
  have hpath : ∀ id, g.Rooted id → ∃ path, g.ParentPath id path := by
    intro id hrooted
    induction hrooted with
    | top hc =>
      have hid := mem_nodeIds_of_container? hc
      exact ⟨_, .root hid ((h.parent?_eq_none_iff hid).2 hc)⟩
    | inside hc hp _ ih =>
      obtain ⟨path, hpath⟩ := ih
      exact ⟨_, .inside ((parent?_eq_some_iff h.compound).2 ⟨hc, hp⟩) hpath⟩
  intro id hid
  obtain ⟨path, hpath⟩ := hpath id (h.rooted id hid)
  exact ⟨path, hpath, hpath.nodup⟩

theorem parent?_congr (h : g.compound = true) (h' : g'.compound = true)
    (hc : g'.container? id = g.container? id) : g'.parent? id = g.parent? id := by
  refine Option.ext fun p => ?_
  rw [parent?_eq_some_iff h, parent?_eq_some_iff h', hc]

end Graph

/-! ### What a change does to the nesting -/

namespace Build

variable {s s' : State} {settings : Settings} {doc : Document} {p : Progress}
  {rest : List Action} {stem x : String}

/-- A node that stays keeps its parent. -/
theorem Change.parent?_eq (h : s.graph.Sound) (hchange : Change stem s s')
    (hx : x ∈ s.graph.nodeIds) (hx' : x ∈ s'.graph.nodeIds) :
    s'.graph.parent? x = s.graph.parent? x := by
  refine Graph.parent?_congr h.nested.compound hchange.sound.nested.compound ?_
  -- only a node that has just been added is moved, and none of those stood in the graph before
  cases hchange with
  | grows graph => exact graph.container? x hx
  | links v w _ _ graph => exact graph.container? x hx
  | removes id _ graph =>
    rw [graph.nodeIds, List.mem_filter] at hx'
    rw [graph.container?, if_neg (of_decide_eq_true hx'.2)]

/-- Nothing lies in a node that goes away. -/
theorem Change.children_eq_nil (hchange : Change stem s s') (hx : x ∈ s.graph.nodeIds)
    (hx' : x ∉ s'.graph.nodeIds) : s.graph.children x = [] := by
  cases hchange with
  | grows graph => exact absurd (graph.mem_nodeIds hx) hx'
  | links v w _ _ graph =>
    rw [← Graph.container?_isSome_iff, graph.container? x hx] at hx'
    exact absurd (Graph.container?_isSome_iff.2 hx) hx'
  | removes id hempty graph =>
    rw [graph.nodeIds, List.mem_filter, decide_eq_true_iff] at hx'
    have hid : x = id := by
      by_contra hne
      exact hx' ⟨hx, hne⟩
    rw [hid, hempty]

/-- Over a whole stretch of a build, a node that is there all the time keeps its parent. -/
theorem Reaches.parent?_performAll (hadmissible : Admissible settings doc) {actions : List Action}
    (h : Reaches settings doc p (actions ++ rest))
    (hx : ∀ done, done <+: actions → x ∈ (performAll settings p done).graph.nodeIds) :
    (performAll settings p actions).graph.parent? x = p.graph.parent? x := by
  -- the node is there before and behind the first action, and all through the others
  induction actions generalizing p with
  | nil => rfl
  | cons action actions ih =>
    have hsound := h.sound hadmissible
    have heffect := h.effect hadmissible
    have hfirst : x ∈ (perform settings p action).graph.nodeIds :=
      hx [action] (List.prefix_append _ _)
    rw [performAll_cons, ih (.next h) fun done hdone => hx (action :: done)
      (List.cons_prefix_cons.2 ⟨rfl, hdone⟩)]
    exact heffect.change.parent?_eq hsound.graph (hx [] List.nil_prefix) hfirst

/-! ### Nothing is refused -/

/-- A node that is put into a scope when it is new is accepted there. -/
def State.AcceptsNode (s : State) (id : String) (scope : Option String) : Prop :=
  ∀ c, scope = some c → c ≠ id → id ∉ s.graph.nodeIds →
    ∀ label, ∃ g, (s.graph.setNode id (some label)).setParent id (some c) = .ok g

/-- The next edge between two nodes is accepted. -/
def State.AcceptsEdge (s : State) (stem v w : String) : Prop :=
  ∀ label, ∃ g, s.graph.setEdge v w (some label) (s.nextEdgeName stem v w).1 = .ok g

/-- The graph accepts the nesting, or the edge, that an action asks for. -/
def Progress.Accepts (settings : Settings) (p : Progress) : Action → Prop
  | .addScope => ∀ id outer, p.scopes = id :: outer → p.state.AcceptsNode id outer.head?
  | .addNode id => p.state.AcceptsNode id p.scope
  | .link v w _ => p.state.AcceptsEdge settings.edgeNameStem v w
  | _ => True

theorem State.acceptsNode {id : String} {scope : Option String} (h : s.graph.Sound)
    (hid : IsPlain id) (hscope : ∀ c ∈ scope, IsPlain c) : s.AcceptsNode id scope := by
  intro c hc _ hnew label
  rw [Graph.setNode_of_not_mem hnew]
  exact ⟨_, Graph.setParent_addNode h hnew hid label (hscope c hc)⟩

theorem State.acceptsEdge (s : State) (stem v w : String) : s.AcceptsEdge stem v w := by
  intro label
  by_cases hedge : s.graph.hasEdge v w (s.nextEdgeName stem v w).1 = true
  · exact ⟨_, by rw [Graph.setEdge, if_pos hedge]⟩
  · exact ⟨_, Graph.setEdge_eq (Bool.eq_false_iff.2 hedge) multigraph_of_nextEdgeName label⟩

theorem Progress.Sound.accepts {action : Action} (settings : Settings) (h : p.Sound doc)
    (hids : ∀ id ∈ action.ids, IsPlain id) : p.Accepts settings action := by
  cases action with
  | addScope =>
    intro id outer hscopes
    have hplain : ∀ c ∈ id :: outer, IsPlain c := hscopes ▸ h.scopes
    exact State.acceptsNode h.graph (hplain id List.mem_cons_self) fun c hc =>
      hplain c (List.mem_cons_of_mem _ (List.mem_of_mem_head? hc))
  | addNode id => exact State.acceptsNode h.graph (hids id List.mem_cons_self) h.isPlain_scope
  | link v w attrs => exact p.state.acceptsEdge settings.edgeNameStem v w
  | enter | mergeNode | attr | inlineAttr | skipStatement | skipElement | elide | leave =>
    trivial

/-! ### The nesting in a build -/

/-- At every point of a build the nesting is a forest and no refusal has been reported. From there
on a node keeps its parent as long as it is there, and the next action removes no node in which
another one lies and asks for nothing that is refused. -/
theorem reaches_isForest (hadmissible : Admissible settings doc)
    (h : Reaches settings doc p rest) :
    p.graph.IsForest ∧ (∀ cause, .rejected cause ∉ p.state.diagnostics) ∧
    (∀ actions after, rest = actions ++ after → ∀ x,
      (∀ done, done <+: actions → x ∈ (performAll settings p done).graph.nodeIds) →
      (performAll settings p actions).graph.parent? x = p.graph.parent? x) ∧
    ∀ action after, rest = action :: after → p.Accepts settings action ∧
      ∀ x ∈ p.graph.nodeIds, x ∉ (perform settings p action).graph.nodeIds →
        p.graph.children x = [] := by
  have hsound := h.sound hadmissible
  refine ⟨hsound.graph.nested.isForest, hsound.accepted, fun actions after hrest x hx => ?_,
    fun action after hrest => ?_⟩
  · subst hrest
    exact h.parent?_performAll hadmissible hx
  · subst hrest
    exact ⟨hsound.accepts settings (h.isPlain_ids hadmissible), fun x =>
      (h.effect hadmissible).change.children_eq_nil⟩

/-- The build arrives at the end of the empty subgraph, whose node is about to be removed. -/
private theorem reaches_elide :
    ∃ p, Reaches Settings.default recurringScope p
        (.elide :: (actionsOfAll recurringScope.stmts).drop 13) ∧
      p.graph.nodeIds = ["b", "s"] ∧
      (perform Settings.default p .elide).graph.nodeIds = ["b"] := by
  have hinitial : Reaches Settings.default recurringScope (Progress.initial recurringScope)
      ((actionsOfAll recurringScope.stmts).take 12 ++
        .elide :: (actionsOfAll recurringScope.stmts).drop 13) := .initial
  exact ⟨_, hinitial.nexts, by rfl, by rfl⟩

/-- The empty subgraph goes away at its end, and the other node stays at the top. -/
theorem reaches_isForest_recurringScope :
    let after := (actionsOfAll recurringScope.stmts).drop 13
    Admissible Settings.default recurringScope ∧
    ∃ p, Reaches Settings.default recurringScope p (.elide :: after) ∧
      p.graph.nodeIds = ["b", "s"] ∧
      (perform Settings.default p .elide).graph.nodeIds = ["b"] ∧
      p.graph.IsForest ∧ p.graph.children "s" = [] ∧
      (perform Settings.default p .elide).graph.parent? "b" = p.graph.parent? "b" := by
  intro after
  obtain ⟨p, hreach, hbefore, hafter⟩ := reaches_elide
  obtain ⟨hforest, -, hstays, hnext⟩ := reaches_isForest admissible_recurringScope hreach
  refine ⟨admissible_recurringScope, p, hreach, hbefore, hafter, hforest, ?_, ?_⟩
  · refine (hnext _ _ rfl).2 "s" ?_ ?_
    · rw [hbefore]
      decide
    · rw [hafter]
      decide
  · refine hstays [.elide] after rfl "b" fun done hdone => ?_
    rcases List.prefix_cons_iff.1 hdone with rfl | ⟨tail, rfl, htail⟩
    · change "b" ∈ p.graph.nodeIds
      rw [hbefore]
      decide
    · rw [List.prefix_nil.1 htail]
      change "b" ∈ (perform Settings.default p .elide).graph.nodeIds
      rw [hafter]
      decide

end Build

end ClusterGraph
