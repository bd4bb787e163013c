import ClusterGraph.Proofs.Build.UnknownStatements

/-!
# Reports about the shape of a document

Whatever a build finds in its graph, what it reports about the shape of its document can be read off
the document alone, in order (`Document.shapeReports`): one report for every statement of an unknown
kind, and for every element of a chain that stands for no nodes one more, behind what is reported
about the element itself (`Build.build_shapeReports`). A subgraph in a chain is carried out once,
and collecting the nodes that it stands for reports nothing.

Two actions report the shape, and no other does (`Build.aboutShape_perform`), so the reports of a
whole run are those of its actions in turn (`Build.aboutShape_performAll`).
-/

namespace ClusterGraph

/-! ### What is to be reported -/

namespace Statement

/-- What is reported about an element of a chain because it is neither a node nor a subgraph. -/
def elementReports : Statement → List Diagnostic
  | .node _ _ => []
  | .subgraph _ _ => []
  | _ => [.invalidEdgeEndpoint]

mutual

/-- What is reported about the shape of a statement, in order. -/
def shapeReports : Statement → List Diagnostic
  | .node _ _ => []
  | .edge elems _ => shapeReportsOfElems elems
  | .subgraph _ stmts => shapeReportsOfAll stmts
  | .attr _ _ => []
  | .inlineAttr _ => []
  | .unknown => [.unknownStatementKind]

/-- What is reported about the shape of statements, one after another. -/
def shapeReportsOfAll : List Statement → List Diagnostic
  | [] => []
  | stmt :: rest => stmt.shapeReports ++ shapeReportsOfAll rest

/-- What is reported about the shape of the elements of a chain: about each of them what is reported
wherever it stands, and then that it stands for no nodes, if so. -/
def shapeReportsOfElems : List Statement → List Diagnostic
  | [] => []
  | elem :: rest => elem.shapeReports ++ elem.elementReports ++ shapeReportsOfElems rest

end

end Statement

/-- What is reported about the shape of a document, in order. -/
def Document.shapeReports (doc : Document) : List Diagnostic :=
  Statement.shapeReportsOfAll doc.stmts

namespace Build

open Statement (shapeReportsOfAll shapeReportsOfElems)

/-- The diagnostics about the shape of the document. -/
def aboutShape (ds : List Diagnostic) : List Diagnostic := ds.filter Diagnostic.isAboutShape

/-! ### What is reported about anything else -/

namespace State

variable (s : State)

theorem aboutShape_report {d : Diagnostic} (h : d.isAboutShape = false) :
    aboutShape (s.report d).diagnostics = aboutShape s.diagnostics := by
  rw [report, aboutShape, List.filter_append, List.filter_cons_of_neg (Bool.eq_false_iff.1 h)]
  exact List.append_nil _

theorem aboutShape_ensureNode (id : String) (scope : Option String) :
    aboutShape (s.ensureNode id scope).diagnostics = aboutShape s.diagnostics := by
  rw [ensureNode]
  split
  · rfl
  · cases scope with
    | none => rfl
    | some c =>
      dsimp only
      split
      · exact aboutShape_report _ rfl
      · split
        · rfl
        · exact aboutShape_report _ rfl

theorem aboutShape_mergeIntoScope (scope : Option String) (attrs : Attrs)
    (geometry : Option Geometry) :
    aboutShape (s.mergeIntoScope scope attrs geometry).diagnostics = aboutShape s.diagnostics := by
  unfold mergeIntoScope
  split
  · rfl
  · split
    · rfl
    · exact aboutShape_report _ rfl

theorem aboutShape_connect (stem v w : String) (attrs : Attrs) (points : Option (List Point)) :
    aboutShape (s.connect stem v w attrs points).diagnostics = aboutShape s.diagnostics := by
  have hname : (s.nextEdgeName stem v w).2.diagnostics = s.diagnostics := by
    rw [nextEdgeName]
    split <;> rfl
  rw [connect, ← hname]
  dsimp only
  split
  · rfl
  · split
    · rfl
    · exact aboutShape_report _ rfl

end State

/-! ### The reports of actions -/

/-- What an action reports about the shape of the document. -/
def Action.shapeReports : Action → List Diagnostic
  | .skipStatement => [.unknownStatementKind]
  | .skipElement => [.invalidEdgeEndpoint]
  | _ => []

/-- An action puts what it has to report about the shape behind what was reported before, whatever
the state is. -/
theorem aboutShape_perform (settings : Settings) (p : Progress) (action : Action) :
    aboutShape (perform settings p action).state.diagnostics =
      aboutShape p.state.diagnostics ++ action.shapeReports := by
  obtain ⟨s, scopes⟩ := p
  have hreport (d : Diagnostic) (hd : d.isAboutShape = true) :
      aboutShape (s.report d).diagnostics = aboutShape s.diagnostics ++ [d] := by
    rw [State.report, aboutShape, List.filter_append, List.filter_cons_of_pos hd]
    rfl
  -- all but the two actions that skip something report nothing about the shape
  have hsame {s' : State} (h : aboutShape s'.diagnostics = aboutShape s.diagnostics) :
      aboutShape s'.diagnostics = aboutShape s.diagnostics ++ [] := by
    rw [h, List.append_nil]
  cases action with
  | skipStatement | skipElement => exact hreport _ rfl
  | enter id => cases id <;> exact hsame rfl
  | addScope =>
    cases scopes with
    | nil => exact hsame rfl
    | cons id outer => exact hsame (s.aboutShape_ensureNode id outer.head?)
  | addNode id => exact hsame (s.aboutShape_ensureNode id scopes.head?)
  | attr target attrs =>
    cases target with
    | graph => exact hsame (s.aboutShape_mergeIntoScope scopes.head? attrs _)
    | node | edge => exact hsame rfl
  | inlineAttr attrs => exact hsame (s.aboutShape_mergeIntoScope scopes.head? attrs none)
  | link v w attrs => exact hsame (s.aboutShape_connect _ v w attrs _)
  | elide =>
    cases scopes with
    | nil => exact hsame rfl
    | cons id outer =>
      cases hempty : (s.graph.children id).isEmpty <;> simp only [perform, hempty] <;>
        exact hsame rfl
  | mergeNode | leave => exact hsame rfl

/-- The reports of a run are those of its actions, one after another. -/
theorem aboutShape_performAll (settings : Settings) (p : Progress) (actions : List Action) :
    aboutShape (performAll settings p actions).state.diagnostics =
      aboutShape p.state.diagnostics ++ actions.flatMap Action.shapeReports := by
  induction actions generalizing p with
  | nil => exact (List.append_nil _).symm
  | cons action actions ih =>
    rw [performAll_cons, ih, aboutShape_perform, List.append_assoc, List.flatMap_cons]

/-- Links report nothing, and an element that stands for no nodes is reported once. -/
theorem shapeReports_linkActions (attrs : Attrs) (prev : List String) (elem : Statement) :
    (linkActions attrs prev elem).flatMap Action.shapeReports = elem.elementReports := by
  have hlinks (targets : List String) :
      (prev.flatMap fun v => targets.map fun w => Action.link v w attrs).flatMap
        Action.shapeReports = [] := by
    rw [List.flatMap_eq_nil_iff]
    intro action haction
    obtain ⟨v, -, haction⟩ := List.mem_flatMap.1 haction
    obtain ⟨w, -, rfl⟩ := List.mem_map.1 haction
    rfl
  cases elem with
  | node id attrs' => exact hlinks [id]
  | subgraph id stmts => exact hlinks (Statement.subgraph id stmts).mentionedIds
  | edge | attr | inlineAttr | unknown => rfl

mutual

theorem shapeReports_actionsOf : ∀ stmt : Statement,
    (actionsOf stmt).flatMap Action.shapeReports = stmt.shapeReports
  | .node id attrs => rfl
  | .edge elems attrs => by
    rw [actionsOf, shapeReports_chainActions attrs [] elems, Statement.shapeReports]
  | .subgraph id stmts => by
    -- entering and leaving report nothing, and the body is carried out once
    rw [actionsOf, List.flatMap_append, List.flatMap_append, shapeReports_actionsOfAll stmts,
      Statement.shapeReports]
    exact List.append_nil _
  | .attr target attrs => rfl
  | .inlineAttr attrs => rfl
  | .unknown => rfl

/-- The actions of statements report their shape, and nothing twice. -/
theorem shapeReports_actionsOfAll : ∀ stmts : List Statement,
    (actionsOfAll stmts).flatMap Action.shapeReports = shapeReportsOfAll stmts
  | [] => rfl
  | stmt :: rest => by
    rw [actionsOfAll, List.flatMap_append, shapeReports_actionsOf stmt,
      shapeReports_actionsOfAll rest, shapeReportsOfAll]

theorem shapeReports_chainActions (attrs : Attrs) (prev : List String) :
    ∀ elems : List Statement,
      (chainActions attrs prev elems).flatMap Action.shapeReports = shapeReportsOfElems elems
  | [] => rfl
  | elem :: rest => by
    rw [chainActions, List.flatMap_append, List.flatMap_append, shapeReports_actionsOf elem,
      shapeReports_linkActions, shapeReports_chainActions attrs _ rest, shapeReportsOfElems]

end

/-! ### The reports of a build -/

/-- Carrying out a statement reports about the shape of the document what can be read off the
statement, in order and once, behind what was reported before, whatever the settings, the state and
the scope are. So what a build reports about the shape can be read off the document. -/
theorem build_shapeReports (settings : Settings) :
    (∀ (scope : Option String) (s : State) (stmt : Statement),
      aboutShape (statement settings scope s stmt).diagnostics =
        aboutShape s.diagnostics ++ stmt.shapeReports) ∧
    ∀ doc : Document, aboutShape (doc.build settings).diagnostics = doc.shapeReports := by
  refine ⟨fun scope s stmt => ?_, fun doc => ?_⟩
  · have hscope : Progress.scope ⟨s, scope.toList⟩ = scope := by cases scope <;> rfl
    have hrun := aboutShape_performAll settings ⟨s, scope.toList⟩ (actionsOf stmt)
    rwa [performAll_actionsOf, hscope, shapeReports_actionsOf] at hrun
  · have hrun := aboutShape_performAll settings (.initial doc) (actionsOfAll doc.stmts)
    rwa [performAll_actionsOfAll, shapeReports_actionsOfAll] at hrun

/-- A chain as an element of a chain is reported behind its own elements. -/
example : (Statement.edge [.node "a" Attrs.empty, .edge [.unknown] Attrs.empty,
    .subgraph none [.unknown]] Attrs.empty).shapeReports =
      [.unknownStatementKind, .invalidEdgeEndpoint, .invalidEdgeEndpoint,
        .unknownStatementKind] := rfl

end Build

end ClusterGraph
