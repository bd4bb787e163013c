import ClusterGraph.Proofs.Build.Balance
import ClusterGraph.Proofs.Build.OpenNodes
import ClusterGraph.Proofs.Build.Repetition

/-!
# Subgraphs without nodes

A statement is **hollow** if no node and no chain is written in it, at any depth. A hollow subgraph
whose ids are new leaves no trace: when it has been carried out, the graph shows what it showed
before, and the same defaults are in force (`statement_hollow_subgraph`). Only the counter may have
gone on, and something may have been reported.

While such a subgraph is open, the nodes that are new stand behind all others (`Sketch.Passes`), and
they are there because they are open: those that were there before are thought of as lasting. So
when all subgraphs have been closed, no new node is left. This holds also where subgraphs of the
same id lie in each other, when nodes go away under a statement that is still being carried out and
are added once more, at the top or in another node.
-/

namespace ClusterGraph

/-! ### Hollow statements -/

namespace Statement

mutual

/-- Whether no node and no chain is written in a statement, at any depth. -/
def isHollow : Statement → Bool
  | .node _ _ => false
  | .edge _ _ => false
  | .subgraph _ stmts => areHollow stmts
  | .attr _ _ => true
  | .inlineAttr _ => true
  | .unknown => true

/-- Whether no node and no chain is written in statements. -/
def areHollow : List Statement → Bool
  | [] => true
  | stmt :: rest => stmt.isHollow && areHollow rest

end

end Statement

namespace Build

variable {settings : Settings} {doc : Document} {p : Progress} {action : Action}
  {actions rest : List Action} {name scope : Option String}

/-- Whether an action makes sure of no node by its own statement and belongs to no chain. -/
def Action.isHollow : Action → Bool
  | .addNode _ => false
  | .mergeNode _ _ => false
  | .link _ _ _ => false
  | .skipElement => false
  | _ => true

mutual

theorem isHollow_of_mem_actionsOf : ∀ stmt : Statement, stmt.isHollow = true →
    ∀ action ∈ actionsOf stmt, action.isHollow = true
  | .node _ _, h => nomatch h
  | .edge _ _, h => nomatch h
  | .subgraph _ stmts, h => by
    have hbody := isHollow_of_mem_actionsOfAll stmts h
    simp only [actionsOf, List.forall_mem_append, List.forall_mem_cons]
    exact ⟨⟨⟨rfl, rfl, nofun⟩, hbody⟩, rfl, rfl, nofun⟩
  | .attr _ _, _ => List.forall_mem_singleton.2 rfl
  | .inlineAttr _, _ => List.forall_mem_singleton.2 rfl
  | .unknown, _ => List.forall_mem_singleton.2 rfl

/-- The actions of hollow statements are hollow. -/
theorem isHollow_of_mem_actionsOfAll : ∀ stmts : List Statement,
    Statement.areHollow stmts = true → ∀ action ∈ actionsOfAll stmts, action.isHollow = true
  | [], _ => nofun
  | stmt :: rest, h => by
    obtain ⟨hstmt, hrest⟩ := Bool.and_eq_true_iff.1 h
    exact List.forall_mem_append.2
      ⟨isHollow_of_mem_actionsOf stmt hstmt, isHollow_of_mem_actionsOfAll rest hrest⟩

end

namespace Sketch

/-! ### Counting and reporting -/

/-- The counter has not gone back, and nothing that was reported has been taken back. -/
structure GoesOn (k k' : Sketch) : Prop where
  counter : k.counter ≤ k'.counter
  diagnostics : k.diagnostics <+: k'.diagnostics

namespace GoesOn

variable {k k' k'' : Sketch}

theorem refl (k : Sketch) : k.GoesOn k := ⟨Nat.le_refl _, List.prefix_rfl⟩

theorem trans (h : k.GoesOn k') (h' : k'.GoesOn k'') : k.GoesOn k'' :=
  ⟨Nat.le_trans h.counter h'.counter, h.diagnostics.trans h'.diagnostics⟩

/-- Something may be reported, and the counter stays as it is. -/
theorem report {ds : List Diagnostic} (hcounter : k'.counter = k.counter)
    (hdiagnostics : k'.diagnostics = k.diagnostics ++ ds) : k.GoesOn k' :=
  ⟨Nat.le_of_eq hcounter.symm, hdiagnostics ▸ List.prefix_append _ _⟩

/-- Nothing is reported, and the counter stays as it is. -/
theorem same (hcounter : k'.counter = k.counter) (hdiagnostics : k'.diagnostics = k.diagnostics) :
    k.GoesOn k' :=
  report hcounter (hdiagnostics.trans (List.append_nil _).symm)

end GoesOn

theorem goesOn_ensureNode (k : Sketch) (id : String) (scope : Option String) :
    k.GoesOn (k.ensureNode id scope) := by
  rw [ensureNode]
  split
  · exact .refl k
  · exact .report rfl rfl

theorem goesOn_perform (settings : Settings) (k : Sketch) (action : Action) :
    k.GoesOn (k.perform settings action) := by
  cases action with
  | enter name =>
    cases name with
    | some name => exact .same rfl rfl
    -- the search for an id starts behind the counter and leaves it at what it finds
    | none => exact ⟨Nat.le_of_lt (lt_freeNumber _ _ _), List.prefix_rfl⟩
  | addScope =>
    obtain ⟨o, defaults, counter, diagnostics, _ | ⟨c, outer⟩⟩ := k
    · exact .refl _
    · exact goesOn_ensureNode _ c outer.head?
  | addNode id => exact k.goesOn_ensureNode id k.scope
  | attr target attrs =>
    cases target with
    | graph => exact .report rfl rfl
    | node => exact .same rfl rfl
    | edge => exact .same rfl rfl
  | inlineAttr attrs => exact .report rfl rfl
  | link v w attrs =>
    refine ⟨?_, List.prefix_rfl⟩
    dsimp only [perform, connect, nextNumber]
    split
    · exact Nat.le_succ _
    · exact Nat.le_refl _
  | skipStatement | skipElement => exact .report rfl rfl
  | elide =>
    obtain ⟨o, defaults, counter, diagnostics, _ | ⟨c, outer⟩⟩ := k
    · exact .refl _
    · exact .same rfl rfl
  | mergeNode | leave => exact .same rfl rfl

/-- Through all actions, the counter goes on and reports are kept. -/
theorem goesOn_performAll (settings : Settings) (k : Sketch) (actions : List Action) :
    k.GoesOn (k.performAll settings actions) := by
  induction actions generalizing k with
  | nil => exact .refl k
  | cons action actions ih => exact (k.goesOn_perform settings action).trans (ih _)

/-! ### While hollow subgraphs are open -/

/-- Hollow subgraphs are open inside others. Behind what was there stand nodes with other ids, and
these are there because the hollow subgraphs are open. -/
structure Passes (z : Outline) (outer inner : List String) (k : Sketch) : Prop where
  outline : ∃ fresh : Rows, k.outline = z.extend fresh ∧ ∀ x ∈ fresh.ids, x ∉ z.nodes.ids
  scopes : k.scopes = inner ++ outer
  new : ∀ c ∈ inner, c ∉ z.nodes.ids
  settled : Frame.Settled (· ∈ z.nodes.ids) inner k.outline.nodes.frame

namespace Passes

variable {z : Outline} {outer inner : List String} {k k' : Sketch} {c : String}

theorem same (h : Passes z outer inner k) (houtline : k'.outline = k.outline)
    (hscopes : k'.scopes = k.scopes) : Passes z outer inner k' where
  outline := houtline ▸ h.outline
  scopes := hscopes.trans h.scopes
  new := h.new
  settled := houtline ▸ h.settled

theorem scope_eq (h : Passes z outer (c :: inner) k) : k.scope = some c :=
  congrArg List.head? h.scopes

/-- Attributes of a hollow subgraph are merged into the label of a new node. -/
theorem mergeIntoScope (h : Passes z outer (c :: inner) k) (attrs : Attrs)
    (geometry : Option Geometry) :
    Passes z outer (c :: inner) (k.mergeIntoScope k.scope attrs geometry) := by
  obtain ⟨fresh, houtline, hfresh⟩ := h.outline
  have hc : c ∉ z.nodes.ids := h.new c List.mem_cons_self
  rw [h.scope_eq]
  refine ⟨⟨fresh.relabel c fun label => label.merge attrs geometry, ?_, ?_⟩, h.scopes, h.new, ?_⟩
  · rw [Sketch.mergeIntoScope, houtline]
    exact Outline.relabel_extend hc fresh _
  · rwa [Rows.ids_relabel]
  · dsimp only [Sketch.mergeIntoScope, Outline.relabel]
    rw [Rows.frame_relabel]
    exact h.settled

/-- A subgraph is opened whose id is new, or generated. -/
theorem opens (houter : ∀ c ∈ outer.head?, c ∈ z.nodes.ids) (h : Passes z outer inner k)
    (hname : ∀ id ∈ name, id ∉ z.nodes.ids) :
    ∃ c, Passes z outer (c :: inner) (k.opened settings name) := by
  obtain ⟨c, hopens⟩ := k.exists_opens settings name
  obtain ⟨fresh, houtline, hfresh⟩ := h.outline
  have hids : k.outline.nodes.ids = z.nodes.ids ++ fresh.ids := by
    rw [houtline]
    exact List.map_append
  have hc : c ∉ z.nodes.ids := by
    cases name with
    | some id => exact hopens.written id rfl ▸ hname id rfl
    | none =>
      -- a generated id is that of no node, and what was there before is still there
      have hfree := k.nextFree_not_mem settings.subgraphIdStem
      rw [hids, ← hopens.generated rfl] at hfree
      exact fun hmem => hfree (List.mem_append_left _ hmem)
  -- the scope is the hollow subgraph around this one, or one that was there before
  have hscope : ∀ s ∈ k.scope, Holds (· ∈ z.nodes.ids) (Frame.LiesIn k.outline.nodes.frame) s ∨
      inner.head? = some s := by
    intro s hs
    rw [scope, h.scopes] at hs
    cases inner with
    | nil => exact .inl (.self (houter s hs))
    | cons top inner => exact .inr hs
  refine ⟨c, ⟨?_, ?_, List.forall_mem_cons.2 ⟨hc, h.new⟩, hopens.settled h.settled hscope⟩⟩
  · by_cases hmem : c ∈ k.outline.nodes.ids
    · rw [hopens.outline_of_mem hmem]
      exact h.outline
    · obtain ⟨entered, hentered, heq⟩ := hopens.node
      rw [← hentered] at hmem houtline hids
      obtain ⟨added, hplace, hadded, -⟩ := Rows.exists_place hmem k.scope
        (PlacedLabel.ofAttrs entered.defaults.current.node)
      refine ⟨fresh ++ added, ?_, fun x hx => ?_⟩
      · have hensure : (entered.ensureNode c k.scope).outline = entered.outline.extend added := by
          simp only [ensureNode, if_neg hmem, hplace, Outline.extend]
        rw [heq, hensure, houtline]
        exact Outline.ext rfl rfl rfl (List.append_assoc ..) rfl
      · rw [Rows.ids, List.map_append, List.mem_append] at hx
        rcases hx with hx | hx
        · exact hfresh x hx
        · obtain ⟨row, hrow, rfl⟩ := List.mem_map.1 hx
          exact fun hz => (hadded row hrow).1 (hids ▸ List.mem_append_left _ hz)
  · rw [hopens.scopes, h.scopes]
    rfl

/-- The innermost hollow subgraph is closed. -/
theorem closes (hends : ∀ ref ∈ z.refs, ∀ id, ref.HasEnd id → id ∈ z.nodes.ids)
    (h : Passes z outer (c :: inner) k) :
    Passes z outer inner ((k.perform settings .elide).perform settings .leave) := by
  have hc : c ∉ z.nodes.ids := h.new c List.mem_cons_self
  have hsettled : Frame.Settled (· ∈ z.nodes.ids) inner
      (k.perform settings .elide).outline.nodes.frame :=
    settled_elide settings h.scope_eq h.settled hc
  have hinner : ∀ c ∈ inner, c ∉ z.nodes.ids := fun x hx => h.new x (List.mem_cons_of_mem _ hx)
  have hscopes : k.scopes = c :: (inner ++ outer) := h.scopes
  by_cases hmembers : k.outline.nodes.members c = []
  · rw [perform_elide_of_empty settings hscopes hmembers] at hsettled ⊢
    obtain ⟨fresh, houtline, hfresh⟩ := h.outline
    refine ⟨⟨fresh.remove c, ?_, fun x hx => ?_⟩, congrArg List.tail hscopes, hinner, hsettled⟩
    · refine (congrArg (Outline.removeNode · c) houtline).trans ?_
      exact Outline.removeNode_extend hc (fun ref href hend => hc (hends ref href c hend)) fresh
    · obtain ⟨row, hrow, rfl⟩ := List.mem_map.1 hx
      exact hfresh _ (List.mem_map_of_mem (List.mem_filter.1 hrow).1)
  · rw [perform_elide_of_members settings hscopes hmembers] at hsettled ⊢
    exact ⟨h.outline, congrArg List.tail hscopes, hinner, hsettled⟩

/-- A whole subgraph, from its beginning to its end. -/
theorem subgraph (houter : ∀ c ∈ outer.head?, c ∈ z.nodes.ids)
    (hends : ∀ ref ∈ z.refs, ∀ id, ref.HasEnd id → id ∈ z.nodes.ids)
    (h : Passes z outer inner k) (hname : ∀ id ∈ name, id ∉ z.nodes.ids)
    (hbody : ∀ c k, Passes z outer (c :: inner) k →
      Passes z outer (c :: inner) (k.performAll settings actions)) :
    Passes z outer inner ((((k.opened settings name).performAll settings actions).perform settings
      .elide).perform settings .leave) := by
  obtain ⟨c, hopened⟩ := h.opens houter hname
  exact (hbody c _ hopened).closes hends

/-- A hollow action inside a hollow subgraph, which it does not leave. -/
theorem perform (h : Passes z outer (c :: inner) k) (hhollow : action.isHollow = true)
    (hstays : action.staysInScope = true) :
    Passes z outer (c :: inner) (k.perform settings action) := by
  cases action with
  | attr target attrs =>
    cases target with
    | graph => exact h.mergeIntoScope attrs _
    | node => exact h.same rfl rfl
    | edge => exact h.same rfl rfl
  | inlineAttr attrs => exact h.mergeIntoScope attrs none
  | skipStatement => exact h.same rfl rfl
  | addNode | mergeNode | link | skipElement => cases hhollow
  | enter | addScope | elide | leave => cases hstays

/-- Hollow actions inside a hollow subgraph, among them whole subgraphs. -/
theorem performAll (houter : ∀ c ∈ outer.head?, c ∈ z.nodes.ids)
    (hends : ∀ ref ∈ z.refs, ∀ id, ref.HasEnd id → id ∈ z.nodes.ids)
    (hbalanced : Balanced actions) (hhollow : ∀ action ∈ actions, action.isHollow = true)
    (hnew : ∀ action ∈ actions, ∀ id ∈ action.ids, id ∉ z.nodes.ids)
    (h : Passes z outer (c :: inner) k) :
    Passes z outer (c :: inner) (k.performAll settings actions) := by
  induction hbalanced generalizing c inner k with
  | nil => exact h
  | cons haction _ ih =>
    obtain ⟨hfirst, hrest⟩ := List.forall_mem_cons.1 hhollow
    exact ih hrest (List.forall_mem_cons.1 hnew).2 (h.perform hfirst haction)
  | @subgraph body rest name _ _ ihbody ihrest =>
    -- the body is carried out with one more subgraph open, so the induction is on all of them
    simp only [List.forall_mem_cons, List.forall_mem_append] at hhollow hnew
    obtain ⟨-, -, hbody, -, -, hrest⟩ := hhollow
    obtain ⟨hname, -, hbodyNew, -, -, hrestNew⟩ := hnew
    have hinside : Passes z outer (c :: inner) _ :=
      h.subgraph houter hends (fun id hid => hname id (Option.mem_toList.2 hid))
        fun _ _ hk => ihbody hbody hbodyNew hk
    have hbehind := ihrest hrest hrestNew hinside
    have hsplit : k.performAll settings
        (.enter name :: .addScope :: (body ++ .elide :: .leave :: rest)) =
          ((((k.opened settings name).performAll settings body).perform settings .elide).perform
            settings .leave).performAll settings rest := by
      refine (Sketch.performAll_append k settings [.enter name, .addScope] _).trans ?_
      exact Sketch.performAll_append (k.opened settings name) settings body _
    rwa [hsplit]

/-- What is new is gone when all hollow subgraphs have been closed. -/
theorem outline_eq (hclosed : Frame.Closed z.nodes.frame) (h : Passes z outer [] k) :
    k.outline = z := by
  obtain ⟨fresh, houtline, hfresh⟩ := h.outline
  have hframe : k.outline.nodes.frame = z.nodes.frame ++ fresh.frame := by
    rw [houtline]
    exact Rows.frame_append _ _
  -- a node in which one lies that was there was there as well
  have hlasting : ∀ x, Holds (· ∈ z.nodes.ids) (Frame.LiesIn k.outline.nodes.frame) x →
      x ∈ z.nodes.ids := by
    intro x hx
    induction hx with
    | self hmem => exact hmem
    | @member x y hy _ ih =>
      rw [Frame.LiesIn, hframe] at hy
      rcases List.mem_append.1 hy with hold | hnew
      · exact Rows.map_fst_frame z.nodes ▸ hclosed _ hold x rfl
      · exact absurd ih (hfresh y (Rows.map_fst_frame fresh ▸ Frame.mem_ids hnew))
  have hnil : fresh = [] := by
    refine List.eq_nil_iff_forall_not_mem.2 fun row hrow => ?_
    have hentry : (row.id, row.parent) ∈ k.outline.nodes.frame := by
      rw [hframe]
      exact List.mem_append_right _ (List.mem_map_of_mem hrow)
    rcases h.settled.held _ hentry with hholds | hopen
    · exact hfresh row.id (List.mem_map_of_mem hrow) (hlasting row.id hholds)
    · exact hopen
  rw [houtline, hnil]
  exact Outline.ext rfl rfl rfl (List.append_nil _) rfl

end Passes

/-- Behind a hollow subgraph with new ids the outline is what it was before. -/
theorem outline_hollow_subgraph {k : Sketch} {stmts : List Statement}
    (hclosed : Frame.Closed k.outline.nodes.frame)
    (hends : ∀ ref ∈ k.outline.refs, ∀ id, ref.HasEnd id → id ∈ k.outline.nodes.ids)
    (hscope : ∀ c ∈ k.scope, c ∈ k.outline.nodes.ids) (hhollow : Statement.areHollow stmts = true)
    (hnew : ∀ id ∈ (Statement.subgraph name stmts).writtenIds, id ∉ k.outline.nodes.ids) :
    (k.performAll settings (actionsOf (.subgraph name stmts))).outline = k.outline := by
  have hids : k.outline.nodes.ids = Frame.ids k.outline.nodes.frame :=
    (Rows.map_fst_frame _).symm
  have hstart : Passes k.outline k.scopes [] k := by
    refine ⟨⟨[], Outline.ext rfl rfl rfl (List.append_nil _).symm rfl, nofun⟩, rfl, nofun, hclosed,
      fun entry hentry => .inl (.self ?_)⟩
    rw [hids]
    exact Frame.mem_ids hentry
  rw [performAll_subgraph]
  -- at the beginning and at the end no hollow subgraph is open
  refine Passes.outline_eq hclosed (hstart.subgraph hscope hends (fun id hid => ?_) ?_)
  · exact hnew id (List.mem_append_left _ (Option.mem_toList.2 hid))
  · intro c k' hk'
    refine hk'.performAll hscope hends (balanced_actionsOfAll stmts)
      (isHollow_of_mem_actionsOfAll stmts hhollow) fun action haction id hid => ?_
    exact hnew id (List.mem_append_right _ (mem_writtenIds_of_mem_actionsOfAll hid stmts haction))

end Sketch

/-! ### Hollow subgraphs in a build -/

/-- The actions of a statement in a scope carry it out there. -/
theorem performAll_actionsOf_scope (settings : Settings) (scope : Option String) (s : State)
    (stmt : Statement) : performAll settings ⟨s, scope.toList⟩ (actionsOf stmt) =
      ⟨statement settings scope s stmt, scope.toList⟩ := by
  rw [performAll_actionsOf]
  cases scope <;> rfl

/-- A sound build may go on in another scope that is there. -/
theorem Progress.Sound.inScope (h : p.Sound doc) (hscope : ∀ c ∈ scope, c ∈ p.graph.nodeIds) :
    Progress.Sound doc ⟨p.state, scope.toList⟩ where
  graph := h.graph
  scopes c hc := h.graph.nested.plain c (hscope c (Option.mem_toList.1 hc))
  directed := h.directed
  multigraph := h.multigraph
  accepted := h.accepted

/-- At every point of a build, a subgraph in which no node and no chain is written, at any depth,
and whose ids are not those of nodes, leaves everything that the graph shows as it was, and the
defaults. -/
theorem statement_hollow_subgraph (hadmissible : Admissible settings doc)
    (h : Reaches settings doc p rest) (hscope : ∀ c ∈ scope, c ∈ p.graph.nodeIds)
    {stmts : List Statement} (hhollow : (Statement.subgraph name stmts).isHollow = true)
    (hplain : ∀ id ∈ (Statement.subgraph name stmts).writtenIds, IsPlain id)
    (hnew : ∀ id ∈ (Statement.subgraph name stmts).writtenIds, id ∉ p.graph.nodeIds) :
    let after := statement settings scope p.state (.subgraph name stmts)
    after.graph.snapshot = p.graph.snapshot ∧
      (∀ x, after.graph.children x = p.graph.children x) ∧
      after.graph.nodeCount = p.graph.nodeCount ∧ after.graph.edgeCount = p.graph.edgeCount ∧
      after.defaults = p.state.defaults ∧
      p.state.counter ≤ after.counter ∧ p.state.diagnostics <+: after.diagnostics := by
  intro after
  have hsound : Progress.Sound doc ⟨p.state, scope.toList⟩ :=
    (h.sound hadmissible).inScope hscope
  obtain ⟨hsound', hsketch⟩ := hsound.sketch_performAll hadmissible
    fun action haction id hid => hplain id (mem_writtenIds_of_mem_actionsOf hid _ haction)
  rw [performAll_actionsOf_scope] at hsound' hsketch
  have hids : p.graph.outline.nodes.ids = p.graph.nodeIds := p.graph.ids_outline
  have houtline : after.graph.outline = p.graph.outline := by
    -- what the graph names has its nodes: containers, ends of edges and the scope
    refine (congrArg Sketch.outline hsketch).trans
      (Sketch.outline_hollow_subgraph ?_ ?_ ?_ hhollow ?_)
    · intro entry hentry c hc
      rw [Frame.ids, Rows.map_fst_frame]
      exact hsound.graph.mem_ids_of_mem_frame hentry hc
    · exact fun ref href id hend => hids ▸ hsound.graph.linked.mem_nodeIds href hend
    · exact fun c hc => hids ▸ hscope c (Option.mem_toList.1 (List.mem_of_mem_head? hc))
    · exact fun id hid => hids ▸ hnew id hid
  have hgoesOn : (Progress.sketch ⟨p.state, scope.toList⟩).GoesOn
      (Progress.sketch ⟨after, scope.toList⟩) :=
    hsketch ▸ Sketch.goesOn_performAll settings _ _
  obtain ⟨hsnapshot, hchildren, hnodeCount, hedgeCount⟩ :=
    hsound.graph.looks_eq hsound'.graph houtline
  exact ⟨hsnapshot, hchildren, hnodeCount, hedgeCount,
    defaults_statement scope p.state (.subgraph name stmts), hgoesOn.counter,
    hgoesOn.diagnostics⟩

/-- A subgraph inside one of the same id, which goes away, and is added at the top once more when an
anonymous subgraph is put into it. -/
def hollowNest : List Statement :=
  [.inlineAttr (Attrs.ofPairs [("label", "x")]), .subgraph (some "t") [],
    .inlineAttr (Attrs.ofPairs [("label", "lost")]),
    .subgraph none [.attr .node (Attrs.ofPairs [("shape", "box")]),
      .subgraph (some "t") [.attr .graph (Attrs.ofPairs [("color", "red")])], .unknown]]

/-- One number is taken and two things are reported, and nothing else is left of the subgraph. -/
theorem statement_hollow_subgraph_hollowNest :
    let s := statements Settings.default none (start singleSubgraph) singleSubgraph.stmts
    let after := statement Settings.default (some "s") s (.subgraph (some "t") hollowNest)
    s.graph.nodeIds = ["s", "a"] ∧ s.counter = 0 ∧ s.diagnostics = [] ∧
    after.counter = 1 ∧ after.diagnostics = [.missingScope "t", .unknownStatementKind] ∧
    after.graph.snapshot = s.graph.snapshot ∧ after.graph.children "s" = ["a"] := by
  intro s after
  have hadmissible : Admissible Settings.default singleSubgraph := ⟨by decide, by decide⟩
  have hreach := Reaches.build Settings.default singleSubgraph
  have hscope : "s" ∈ s.graph.nodeIds := by decide +kernel
  have hnew : ∀ id ∈ (Statement.subgraph (some "t") hollowNest).writtenIds,
      id ∉ s.graph.nodeIds := by decide +kernel
  obtain ⟨hsnapshot, hchildren, -⟩ := statement_hollow_subgraph hadmissible hreach
    (fun c hc => Option.some.inj hc ▸ hscope) (by decide) (by decide) hnew
  have hmembers : s.graph.children "s" = ["a"] := by decide +kernel
  exact ⟨by decide +kernel, by decide +kernel, by decide +kernel, by decide +kernel,
    by decide +kernel, hsnapshot, (hchildren "s").trans hmembers⟩

end Build

end ClusterGraph
