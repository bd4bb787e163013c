import ClusterGraph.Proofs.Build.Scoping

/-!
# Documents without their unknown statements

A statement of an unknown kind is reported and otherwise passed over, wherever it stands: at the
top, in a subgraph, or as an element of a chain, where it is reported a second time. A document and
the same document without its unknown statements (`Document.withoutUnknown`) therefore have the same
graph, generated names included, and the same diagnostics about anything but the shape of the
document (`Build.build_withoutUnknown`).

The actions of the two documents are the same but for the reports about the shape
(`Build.filter_actionsOfAll`). What an action does, and what it reports, does not depend on what was
reported before (`Build.perform_after`), so the other actions do not notice that those reports are
left out (`Build.SameWork.performAll_filter`).
-/

namespace ClusterGraph

/-! ### Leaving out unknown statements -/

namespace Statement

mutual

/-- A statement without the unknown statements in it; nothing when it is unknown itself. -/
def withoutUnknown : Statement → Option Statement
  | .node id attrs => some (.node id attrs)
  | .edge elems attrs => some (.edge (withoutUnknownAll elems) attrs)
  | .subgraph id stmts => some (.subgraph id (withoutUnknownAll stmts))
  | .attr target attrs => some (.attr target attrs)
  | .inlineAttr attrs => some (.inlineAttr attrs)
  | .unknown => none

/-- Statements without the unknown ones among them and in them. -/
def withoutUnknownAll : List Statement → List Statement
  | [] => []
  | stmt :: rest => stmt.withoutUnknown.toList ++ withoutUnknownAll rest

end

/-- Each statement of a list is left out or cleared by itself. -/
theorem withoutUnknownAll_eq_filterMap (stmts : List Statement) :
    withoutUnknownAll stmts = stmts.filterMap withoutUnknown := by
  induction stmts with
  | nil => rfl
  | cons stmt rest ih =>
    rw [withoutUnknownAll, ih]
    cases hstmt : stmt.withoutUnknown with
    | none => rw [List.filterMap_cons_none hstmt]; rfl
    | some stmt' => rw [List.filterMap_cons_some hstmt]; rfl

/-- What is left comes from a statement of the list. -/
theorem mem_withoutUnknownAll_iff {stmt : Statement} {stmts : List Statement} :
    stmt ∈ withoutUnknownAll stmts ↔ ∃ old ∈ stmts, old.withoutUnknown = some stmt := by
  rw [withoutUnknownAll_eq_filterMap, List.mem_filterMap]

/-- No statement is cleared to an unknown one. -/
theorem withoutUnknown_ne_unknown (stmt : Statement) : stmt.withoutUnknown ≠ some .unknown := by
  cases stmt <;> simp [withoutUnknown]

/-- Nothing but unknown statements is left out. -/
theorem withoutUnknown_eq_none_iff {stmt : Statement} :
    stmt.withoutUnknown = none ↔ stmt = .unknown := by
  cases stmt <;> simp [withoutUnknown]

/-- A stack can be cleared before statements are pushed on it, or after. -/
theorem withoutUnknownAll_push (stmts stack : List Statement) :
    withoutUnknownAll (push stmts stack) =
      push (withoutUnknownAll stmts) (withoutUnknownAll stack) := by
  simp only [withoutUnknownAll_eq_filterMap, push, List.filterMap_append, List.filterMap_reverse]

/-- Unknown statements on the stack, and in what is on it, add nothing to the ids collected. -/
theorem collectIds_withoutUnknownAll (ids : List String) (stack : List Statement) :
    collectIds ids (withoutUnknownAll stack) = collectIds ids stack := by
  fun_induction collectIds ids stack with
  | case1 ids => rw [withoutUnknownAll, collectIds]
  | case2 ids id attrs stack ih | case5 ids target attrs stack ih | case6 ids attrs stack ih =>
    rw [withoutUnknownAll, withoutUnknown, Option.toList_some, List.singleton_append, collectIds,
      ih]
  | case3 ids elems attrs stack ih | case4 ids id stmts stack ih =>
    rw [withoutUnknownAll, withoutUnknown, Option.toList_some, List.singleton_append, collectIds,
      ← withoutUnknownAll_push, ih]
  | case7 ids stack ih => exact ih

end Statement

/-- A document without its unknown statements. -/
def Document.withoutUnknown (doc : Document) : Document :=
  { doc with stmts := Statement.withoutUnknownAll doc.stmts }

/-- Whether a diagnostic is about the shape of the document alone: a statement of an unknown kind,
or an element of a chain that stands for no nodes. -/
def Diagnostic.isAboutShape : Diagnostic → Bool
  | unknownStatementKind => true
  | invalidEdgeEndpoint => true
  | _ => false

namespace Build

open Statement (withoutUnknownAll)

variable {settings : Settings} {doc : Document}

/-- No unknown statement is left, at whatever position. -/
theorem StandsAt.exists_withoutUnknown {pos : Position} {stmt : Statement}
    (h : StandsAt doc.withoutUnknown pos stmt) :
    ∃ old : Statement, old.withoutUnknown = some stmt := by
  -- what stands in a list without unknown statements comes of the list as it was
  have hmem {before after : List Statement} {stmt : Statement} {stmts : List Statement}
      (h : withoutUnknownAll stmts = before ++ stmt :: after) :
      ∃ old : Statement, old.withoutUnknown = some stmt := by
    have hin : stmt ∈ withoutUnknownAll stmts := h ▸ List.mem_append_right _ List.mem_cons_self
    obtain ⟨old, -, hold⟩ := Statement.mem_withoutUnknownAll_iff.1 hin
    exact ⟨old, hold⟩
  induction h with
  | top h => exact hmem h
  | inSubgraph houter ih =>
    obtain ⟨old, hold⟩ := ih
    cases old with
    | subgraph id stmts =>
      have hbody := Option.some.inj hold
      injection hbody with hid hstmts
      exact hmem hstmts
    | _ => cases hold
  | inEdge houter ih =>
    obtain ⟨old, hold⟩ := ih
    cases old with
    | edge elems attrs =>
      have hbody := Option.some.inj hold
      injection hbody with helems hattrs
      exact hmem helems
    | _ => cases hold

/-! ### The actions that are left -/

/-- Whether an action does something else than report the shape of the document. -/
def Action.isWork : Action → Bool
  | .skipStatement => false
  | .skipElement => false
  | _ => true

/-- A cleared element of a chain stands for the same nodes. -/
theorem endpoints_withoutUnknown {stmt stmt' : Statement} (h : stmt.withoutUnknown = some stmt') :
    endpoints stmt' = endpoints stmt := by
  cases stmt with
  | subgraph id stmts =>
    have hids := Statement.collectIds_withoutUnknownAll [] [.subgraph id stmts]
    obtain rfl := Option.some.inj h
    exact congrArg some hids
  | unknown => cases h
  | _ =>
    obtain rfl := Option.some.inj h
    rfl

/-- Links look at what an element stands for, and at nothing else of it. -/
theorem linkActions_congr {attrs : Attrs} {prev : List String} {stmt stmt' : Statement}
    (h : endpoints stmt' = endpoints stmt) :
    linkActions attrs prev stmt' = linkActions attrs prev stmt := by
  rw [linkActions, linkActions, h]

/-- What comes before the next element is what this one stands for. -/
theorem nextEnds_congr {prev : List String} {stmt stmt' : Statement}
    (h : endpoints stmt' = endpoints stmt) : nextEnds prev stmt' = nextEnds prev stmt := by
  rw [nextEnds, nextEnds, h]

mutual

/-- Without unknown statements a statement has the same actions but for reports. -/
theorem filter_actionsOf : ∀ stmt : Statement,
    (actionsOfAll stmt.withoutUnknown.toList).filter Action.isWork =
      (actionsOf stmt).filter Action.isWork
  | .node id attrs => rfl
  | .edge elems attrs => by
    have helems := filter_chainActions attrs [] elems
    rwa [Statement.withoutUnknown, Option.toList_some, actionsOfAll, actionsOfAll, List.append_nil,
      actionsOf, actionsOf]
  | .subgraph id stmts => by
    have hstmts := filter_actionsOfAll stmts
    rw [Statement.withoutUnknown, Option.toList_some, actionsOfAll, actionsOfAll, List.append_nil,
      actionsOf, actionsOf]
    simp only [List.filter_append, hstmts]
  | .attr target attrs => rfl
  | .inlineAttr attrs => rfl
  | .unknown => rfl

theorem filter_actionsOfAll : ∀ stmts : List Statement,
    (actionsOfAll (withoutUnknownAll stmts)).filter Action.isWork =
      (actionsOfAll stmts).filter Action.isWork
  | [] => rfl
  | stmt :: rest => by
    rw [withoutUnknownAll, actionsOfAll_append, List.filter_append, filter_actionsOf stmt,
      filter_actionsOfAll rest, actionsOfAll, List.filter_append]

theorem filter_chainActions (attrs : Attrs) (prev : List String) : ∀ elems : List Statement,
    (chainActions attrs prev (withoutUnknownAll elems)).filter Action.isWork =
      (chainActions attrs prev elems).filter Action.isWork
  | [] => rfl
  | elem :: rest => by
    have hrest := filter_chainActions attrs (nextEnds prev elem) rest
    have helem := filter_actionsOf elem
    cases hstmt : elem.withoutUnknown with
    | none =>
      -- an unknown element links nothing, and the chain goes on with the nodes before it
      obtain rfl := Statement.withoutUnknown_eq_none_iff.1 hstmt
      exact hrest
    | some elem' =>
      have hends := endpoints_withoutUnknown hstmt
      rw [hstmt, Option.toList_some, actionsOfAll, actionsOfAll, List.append_nil] at helem
      rw [withoutUnknownAll, hstmt, Option.toList_some, List.singleton_append, chainActions,
        chainActions, linkActions_congr hends, nextEnds_congr hends]
      simp only [List.filter_append, helem, hrest]

end

/-! ### What has been reported before -/

namespace State

/-- A state with diagnostics that were reported before its own. -/
def after (ds : List Diagnostic) (s : State) : State :=
  { s with diagnostics := ds ++ s.diagnostics }

section After

variable (ds : List Diagnostic) (s : State)

/-- One more report stands behind the earlier ones. -/
theorem report_after (d : Diagnostic) : (s.after ds).report d = (s.report d).after ds := by
  simp only [after, report, List.append_assoc]

/-- Nodes are created without regard to earlier reports. -/
theorem ensureNode_after (id : String) (scope : Option String) :
    (s.after ds).ensureNode id scope = (s.ensureNode id scope).after ds := by
  cases hnode : s.graph.hasNode id with
  | true => simp [ensureNode, after, hnode]
  | false =>
    cases scope with
    | none => simp [ensureNode, after, hnode]
    | some c =>
      by_cases hc : c = id
      · simp [ensureNode, after, report, hnode, hc]
      · cases hset : (s.graph.setNode id (some (.ofAttrs s.defaults.current.node))).setParent id
          (some c) <;> simp [ensureNode, after, report, hnode, hc, hset]

/-- Attributes are merged, or found to have no target, without regard to earlier reports. -/
theorem mergeIntoScope_after (scope : Option String) (attrs : Attrs)
    (geometry : Option Geometry) :
    (s.after ds).mergeIntoScope scope attrs geometry =
      (s.mergeIntoScope scope attrs geometry).after ds := by
  cases scope with
  | none => rfl
  | some c =>
    cases hnode : s.graph.hasNode c <;> simp [mergeIntoScope, after, report, hnode]

/-- Edges are named without regard to earlier reports. -/
theorem nextEdgeName_after (stem v w : String) : (s.after ds).nextEdgeName stem v w =
    ((s.nextEdgeName stem v w).1, (s.nextEdgeName stem v w).2.after ds) := by
  cases hedge : s.graph.multigraph && s.graph.hasEdge v w none <;>
    simp [nextEdgeName, after, hedge]

/-- Nodes are linked without regard to earlier reports. -/
theorem connect_after (stem v w : String) (attrs : Attrs) (points : Option (List Point)) :
    (s.after ds).connect stem v w attrs points = (s.connect stem v w attrs points).after ds := by
  rw [connect, connect, nextEdgeName_after]
  generalize s.nextEdgeName stem v w = next
  obtain ⟨name, s⟩ := next
  cases hedge : s.graph.hasEdge v w name with
  | true => simp [after, hedge]
  | false =>
    cases hset : s.graph.setEdge v w (some (.ofAttrs s.defaults.current.edge)) name <;>
      simp [after, report, hedge, hset]

end After

end State

/-- A build under way with diagnostics that were reported before its own. -/
def Progress.after (ds : List Diagnostic) (p : Progress) : Progress :=
  ⟨p.state.after ds, p.scopes⟩

/-- A build under way with nothing reported yet. -/
def Progress.unreported (p : Progress) : Progress :=
  ⟨{ p.state with diagnostics := [] }, p.scopes⟩

/-- A build under way is one with no reports, and its reports. -/
theorem Progress.eq_after_unreported (p : Progress) :
    p = p.unreported.after p.state.diagnostics := by
  simp [unreported, after, State.after]

/-- What an action does, and what it reports, does not depend on what was reported before. -/
theorem perform_after (settings : Settings) (ds : List Diagnostic) (p : Progress)
    (action : Action) :
    perform settings (p.after ds) action = (perform settings p action).after ds := by
  obtain ⟨s, scopes⟩ := p
  cases action with
  | enter id => cases id <;> rfl
  | addScope =>
    cases scopes with
    | nil => rfl
    | cons id outer => exact congrArg (Progress.mk · _) (s.ensureNode_after ds id outer.head?)
  | addNode id => exact congrArg (Progress.mk · _) (s.ensureNode_after ds id scopes.head?)
  | attr target attrs =>
    cases target with
    | graph => exact congrArg (Progress.mk · _) (s.mergeIntoScope_after ds scopes.head? attrs _)
    | node | edge => rfl
  | inlineAttr attrs =>
    exact congrArg (Progress.mk · _) (s.mergeIntoScope_after ds scopes.head? attrs none)
  | link v w attrs => exact congrArg (Progress.mk · _) (s.connect_after ds _ v w attrs _)
  | skipStatement | skipElement => exact congrArg (Progress.mk · _) (s.report_after ds _)
  | elide =>
    cases scopes with
    | nil => rfl
    | cons id outer =>
      cases hempty : (s.graph.children id).isEmpty <;>
        simp [perform, Progress.after, State.after, State.removeNode, hempty]
  | mergeNode | leave => rfl

/-! ### Builds that report the shape differently -/

/-- The diagnostics about anything but the shape of the document. -/
def beyondShape (ds : List Diagnostic) : List Diagnostic := ds.filter fun d => !d.isAboutShape

/-- Two builds under way that differ at most in what they have reported about the shape of the
document. -/
structure SameWork (p p' : Progress) : Prop where
  graph : p'.graph = p.graph
  defaults : p'.state.defaults = p.state.defaults
  counter : p'.state.counter = p.state.counter
  diagnostics : beyondShape p'.state.diagnostics = beyondShape p.state.diagnostics
  scopes : p'.scopes = p.scopes

namespace SameWork

variable {p p' p'' : Progress} {action : Action}

theorem refl (p : Progress) : SameWork p p := ⟨rfl, rfl, rfl, rfl, rfl⟩

theorem trans (h : SameWork p p') (h' : SameWork p' p'') : SameWork p p'' where
  graph := h'.graph.trans h.graph
  defaults := h'.defaults.trans h.defaults
  counter := h'.counter.trans h.counter
  diagnostics := h'.diagnostics.trans h.diagnostics
  scopes := h'.scopes.trans h.scopes

/-- Reports that differ in the shape alone make no difference. -/
theorem after {ds ds' : List Diagnostic} (p : Progress) (h : beyondShape ds' = beyondShape ds) :
    SameWork (p.after ds) (p.after ds') where
  graph := rfl
  defaults := rfl
  counter := rfl
  diagnostics := by
    have happend (ds : List Diagnostic) : beyondShape (ds ++ p.state.diagnostics) =
        beyondShape ds ++ beyondShape p.state.diagnostics := List.filter_append ..
    exact (happend ds').trans ((congrArg (· ++ _) h).trans (happend ds).symm)
  scopes := rfl

/-- Builds that do the same work are equal but for their reports. -/
theorem unreported_eq (h : SameWork p p') : p'.unreported = p.unreported := by
  obtain ⟨⟨g, d, n, ds⟩, scopes⟩ := p
  obtain ⟨⟨g', d', n', ds'⟩, scopes'⟩ := p'
  obtain ⟨hg : g' = g, hd : d' = d, hn : n' = n, -, hscopes : scopes' = scopes⟩ := h
  subst hg hd hn hscopes
  rfl

/-- An action does the same work in both builds, since it does not look at the reports. -/
theorem perform (h : SameWork p p') (settings : Settings) (action : Action) :
    SameWork (Build.perform settings p action) (Build.perform settings p' action) := by
  rw [p.eq_after_unreported, p'.eq_after_unreported, h.unreported_eq, perform_after, perform_after]
  exact after _ h.diagnostics

/-- A report about the shape leaves no other trace. -/
theorem perform_of_not_isWork (settings : Settings) (p : Progress) (h : action.isWork = false) :
    SameWork p (Build.perform settings p action) := by
  have hreport (d : Diagnostic) (hd : d.isAboutShape = true) :
      beyondShape (p.state.diagnostics ++ [d]) = beyondShape p.state.diagnostics := by
    rw [beyondShape, List.filter_append, List.filter_cons_of_neg (by rw [hd]; simp)]
    exact List.append_nil _
  cases action with
  | skipStatement | skipElement => exact ⟨rfl, rfl, rfl, hreport _ rfl, rfl⟩
  | _ => cases h

/-- By induction on the actions, those that only report can be left out. -/
theorem performAll_filter (h : SameWork p p') (settings : Settings) (actions : List Action) :
    SameWork (performAll settings p (actions.filter Action.isWork))
      (performAll settings p' actions) := by
  induction actions generalizing p p' with
  | nil => exact h
  | cons action actions ih =>
    cases hwork : action.isWork with
    | true =>
      rw [List.filter_cons_of_pos hwork]
      exact ih (h.perform settings action)
    | false =>
      rw [List.filter_cons_of_neg (by rw [hwork]; simp)]
      exact ih (h.trans (perform_of_not_isWork settings p' hwork))

end SameWork

/-! ### The build of a document without unknown statements -/

/-- Leaving out the unknown statements of a document, wherever they stand, changes nothing in its
graph, and of its diagnostics at most those about the shape of the document. -/
theorem build_withoutUnknown (settings : Settings) (doc : Document) :
    (∀ pos, ¬ StandsAt doc.withoutUnknown pos .unknown) ∧
    (doc.withoutUnknown.build settings).graph = (doc.build settings).graph ∧
    beyondShape (doc.withoutUnknown.build settings).diagnostics =
      beyondShape (doc.build settings).diagnostics := by
  have hfilter := filter_actionsOfAll doc.stmts
  have hleft := (SameWork.refl (.initial doc)).performAll_filter settings
    (actionsOfAll (withoutUnknownAll doc.stmts))
  have hall := (SameWork.refl (.initial doc)).performAll_filter settings (actionsOfAll doc.stmts)
  rw [hfilter, performAll_actionsOfAll] at hleft
  rw [performAll_actionsOfAll] at hall
  refine ⟨fun pos hstands => ?_, hleft.graph.trans hall.graph.symm,
    hleft.diagnostics.trans hall.diagnostics.symm⟩
  obtain ⟨old, hold⟩ := hstands.exists_withoutUnknown
  exact old.withoutUnknown_ne_unknown hold

end Build

end ClusterGraph
