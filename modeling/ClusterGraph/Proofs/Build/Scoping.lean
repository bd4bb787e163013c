import ClusterGraph.Proofs.Build.Actions

/-!
# The scoping of defaults

Defaults are scoped by where statements stand, whatever the graph is like: a **position** in a
document fixes the whole stack of defaults with which the statement there is carried out
(`Build.arrival_defaults`). The stack has a frame for each subgraph around the position, and the
frame in force is laid over, one after another, by the defaults that are set before the position
in its own scope and in those around it. What is set inside a subgraph that has been closed does
not count, and a subgraph leaves the stack as it found it.
-/

namespace ClusterGraph

/-! ### Setting defaults one after another -/

/-- Defaults that are set one after another. -/
abbrev Assignments := List (AttrTarget × Attrs)

/-- What is left of assignments for one target: their attributes laid over each other in turn. -/
def Assignments.overlaid (assignments : Assignments) (target : AttrTarget) : Attrs :=
  (assignments.filter fun a => a.1 = target).foldl (fun attrs a => attrs.overlay a.2) Attrs.empty

/-- Sets defaults in a frame one after another. -/
def DefaultFrame.mergeAll (frame : DefaultFrame) (assignments : Assignments) : DefaultFrame :=
  assignments.foldl (fun frame a => frame.merge a.1 a.2) frame

/-- Sets defaults in the current frame one after another. -/
def Defaults.mergeAll (d : Defaults) (assignments : Assignments) : Defaults :=
  assignments.foldl (fun d a => d.merge a.1 a.2) d

/-- The defaults of one target. -/
def DefaultFrame.attrs (frame : DefaultFrame) : AttrTarget → Attrs
  | .node => frame.node
  | .edge => frame.edge
  | .graph => frame.graph

/-- Of the assignments, those for a target are laid over its defaults in turn; the others do not
matter. -/
theorem DefaultFrame.attrs_mergeAll (frame : DefaultFrame) (assignments : Assignments)
    (target : AttrTarget) : (frame.mergeAll assignments).attrs target =
      (assignments.filter fun a => a.1 = target).foldl (fun attrs a => attrs.overlay a.2)
        (frame.attrs target) := by
  induction assignments generalizing frame with
  | nil => rfl
  | cons a assignments ih =>
    obtain ⟨target', attrs⟩ := a
    cases target' <;> cases target <;> exact ih _

namespace Defaults

variable (d : Defaults) (xs ys : Assignments)

/-- Assignments can be made in two parts. -/
theorem mergeAll_append : d.mergeAll (xs ++ ys) = (d.mergeAll xs).mergeAll ys := List.foldl_append

/-- Assignments change the frame in force. -/
theorem current_mergeAll : (d.mergeAll xs).current = d.current.mergeAll xs := by
  induction xs generalizing d with
  | nil => rfl
  | cons a xs ih => exact (ih _).trans (by rw [current_merge]; rfl)

/-- Assignments open and close no scope. -/
theorem depth_mergeAll : (d.mergeAll xs).depth = d.depth := by
  induction xs generalizing d with
  | nil => rfl
  | cons a xs ih => exact (ih _).trans (depth_merge d a.1 a.2)

/-- Defaults that are set in an inner scope are gone when it is closed. -/
theorem pop_mergeAll_push : (d.push.mergeAll xs).pop = d := by
  have hinner : ∀ frame outer, mergeAll ⟨d.root, frame :: outer⟩ xs =
      ⟨d.root, frame.mergeAll xs :: outer⟩ := by
    intro frame outer
    induction xs generalizing frame with
    | nil => rfl
    | cons a xs ih => exact ih _
  exact congrArg pop (hinner d.current d.scopes)

end Defaults

namespace Statement

mutual

/-- The defaults that a statement sets in the scope in which it stands, in order. Those that are
set in a subgraph do not count, those in the elements of a chain do. -/
def assignments : Statement → Assignments
  | .node _ _ => []
  | .edge elems _ => assignmentsOfAll elems
  | .subgraph _ _ => []
  | .attr .graph _ => []
  | .attr target attrs => [(target, attrs)]
  | .inlineAttr _ => []
  | .unknown => []

/-- The defaults that statements set in the scope in which they stand, in order. -/
def assignmentsOfAll : List Statement → Assignments
  | [] => []
  | stmt :: rest => stmt.assignments ++ assignmentsOfAll rest

end

end Statement

namespace Build

open Statement (assignmentsOfAll)

variable {settings : Settings} {doc : Document}

/-! ### The defaults behind a statement -/

namespace State

variable (s : State)

/-- Creating a node reads the defaults and leaves them as they are. -/
theorem defaults_ensureNode (id : String) (scope : Option String) :
    (s.ensureNode id scope).defaults = s.defaults := by
  rw [ensureNode]
  split
  · rfl
  · cases scope with
    | none => rfl
    | some c =>
      dsimp only
      split
      · rfl
      · split <;> rfl

/-- Attributes of the graph itself are no defaults. -/
theorem defaults_mergeIntoScope (scope : Option String) (attrs : Attrs)
    (geometry : Option Geometry) :
    (s.mergeIntoScope scope attrs geometry).defaults = s.defaults := by
  unfold mergeIntoScope
  split
  · rfl
  · split <;> rfl

/-- Linking two nodes reads the defaults and leaves them as they are. -/
theorem defaults_connect (stem v w : String) (attrs : Attrs) (points : Option (List Point)) :
    (s.connect stem v w attrs points).defaults = s.defaults := by
  have hname : (s.nextEdgeName stem v w).2.defaults = s.defaults := by
    rw [nextEdgeName]
    split <;> rfl
  rw [connect]
  dsimp only
  split
  · exact hname
  · split <;> exact hname

/-- Linking any number of nodes leaves the defaults as they are. -/
theorem defaults_connectAll (stem : String) (sources targets : List String) (attrs : Attrs)
    (points : Option (List Point)) :
    (s.connectAll stem sources targets attrs points).defaults = s.defaults := by
  have hrow : ∀ v (s : State), (targets.foldl (fun s w => s.connect stem v w attrs points)
      s).defaults = s.defaults := by
    intro v s
    induction targets generalizing s with
    | nil => rfl
    | cons w targets ih => exact (ih _).trans (s.defaults_connect stem v w attrs points)
  rw [connectAll]
  induction sources generalizing s with
  | nil => rfl
  | cons v sources ih => exact (ih _).trans (hrow v s)

end State

/-- What is done between the elements of a chain leaves the defaults as they are. -/
theorem defaults_extendChain (attrs : Attrs) (prev : List String) (elem : Statement) (s : State) :
    (extendChain settings attrs prev elem s).2.defaults = s.defaults := by
  rw [extendChain]
  split
  · rfl
  · exact s.defaults_connectAll _ _ _ _ _

/-- Opening a subgraph opens one scope, whether its node is new or not. -/
theorem defaults_openSubgraph (s : State) (scope id : Option String) :
    (openSubgraph settings s scope id).2.defaults = s.defaults.push := by
  have hid : (s.subgraphId settings.subgraphIdStem id).2.defaults = s.defaults := by
    cases id <;> rfl
  exact (State.defaults_ensureNode _ _ _).trans (congrArg Defaults.push hid)

/-- Closing a subgraph closes one scope, whether its node goes away or not. -/
theorem defaults_closeSubgraph (s : State) (id : String) :
    (closeSubgraph s id).defaults = s.defaults.pop := by
  rw [closeSubgraph]
  dsimp only
  split <;> rfl

mutual

/-- A statement sets its defaults, and does nothing else to them. -/
theorem defaults_statement (scope : Option String) (s : State) : ∀ stmt : Statement,
    (statement settings scope s stmt).defaults = s.defaults.mergeAll stmt.assignments
  | .node id attrs => s.defaults_ensureNode id scope
  | .edge elems attrs => by
    rw [statement, defaults_chain, Statement.assignments]
  | .subgraph id stmts => by
    -- what the body sets stands in the frame that is dropped at the end
    rw [statement, defaults_closeSubgraph, defaults_statements, defaults_openSubgraph,
      Defaults.pop_mergeAll_push]
    rfl
  | .attr .node attrs => rfl
  | .attr .edge attrs => rfl
  | .attr .graph attrs => s.defaults_mergeIntoScope scope attrs _
  | .inlineAttr attrs => s.defaults_mergeIntoScope scope attrs none
  | .unknown => rfl

theorem defaults_statements (scope : Option String) (s : State) : ∀ stmts : List Statement,
    (statements settings scope s stmts).defaults = s.defaults.mergeAll (assignmentsOfAll stmts)
  | [] => rfl
  | stmt :: rest => by
    rw [statements, defaults_statements, defaults_statement, assignmentsOfAll,
      Defaults.mergeAll_append]

theorem defaults_chain (scope : Option String) (attrs : Attrs) (prev : List String) (s : State) :
    ∀ elems : List Statement, (chain settings scope attrs prev s elems).defaults =
      s.defaults.mergeAll (assignmentsOfAll elems)
  | [] => rfl
  | elem :: rest => by
    rw [chain, defaults_chain, defaults_extendChain, defaults_statement, assignmentsOfAll,
      Defaults.mergeAll_append]

end

/-! ### The defaults in force -/

/-- The defaults in force are those that assignments leave when nothing has been set before. -/
def Progress.InForce (p : Progress) (set : Assignments) : Prop :=
  p.state.defaults.current = DefaultFrame.empty.mergeAll set

namespace Progress.InForce

variable {p : Progress} {set : Assignments}

/-- While these defaults are in force, those for a target are the attributes set for it in turn. -/
theorem attrs_eq (h : p.InForce set) (target : AttrTarget) :
    p.state.defaults.current.attrs target = set.overlaid target := by
  rw [h, DefaultFrame.attrs_mergeAll]
  cases target <;> rfl

/-- Nothing is set at the start. -/
theorem initial (doc : Document) : (Progress.initial doc).InForce [] := rfl

/-- A scope starts with what is set outside. -/
theorem enter (h : p.InForce set) (settings : Settings) (id : Option String) :
    (perform settings p (.enter id)).InForce set := by
  cases id <;> exact h

/-- The node of a subgraph is created without a change to the defaults. -/
theorem addScope (h : p.InForce set) (settings : Settings) :
    (perform settings p .addScope).InForce set := by
  obtain ⟨s, _ | ⟨id, outer⟩⟩ := p
  · exact h
  · rw [InForce, ← h]
    exact congrArg Defaults.current (s.defaults_ensureNode id outer.head?)

/-- A link is made without a change to the defaults. -/
theorem link (h : p.InForce set) (settings : Settings) (v w : String) (attrs : Attrs) :
    (perform settings p (.link v w attrs)).InForce set := by
  rw [InForce, ← h]
  exact congrArg Defaults.current (p.state.defaults_connect _ v w attrs _)

/-- Behind a statement the defaults that it sets in its own scope are in force as well. -/
theorem performAll_actionsOf (h : p.InForce set) (settings : Settings) (stmt : Statement) :
    (performAll settings p (actionsOf stmt)).InForce (set ++ stmt.assignments) := by
  rw [Build.performAll_actionsOf, InForce, defaults_statement, Defaults.current_mergeAll, h]
  exact List.foldl_append.symm

/-- Links are made without a change to the defaults. -/
theorem performAll_linkActions (h : p.InForce set) (settings : Settings) (attrs : Attrs)
    (prev : List String) (elem : Statement) :
    (performAll settings p (linkActions attrs prev elem)).InForce set := by
  have hdefaults : (extendChain settings attrs prev elem p.state).2.defaults = p.state.defaults :=
    defaults_extendChain attrs prev elem p.state
  rw [Build.performAll_linkActions, InForce, hdefaults]
  exact h

end Progress.InForce

/-! ### Positions -/

/-- Where a statement stands: what stands before it, and what it stands in. -/
inductive Position where
  | top (before : List Statement)
  | inSubgraph (outer : Position) (id : Option String) (before : List Statement)
  | inEdge (outer : Position) (attrs : Attrs) (before : List Statement)

/-- The statement at a position of a document. -/
inductive StandsAt (doc : Document) : Position → Statement → Prop where
  | top {before after : List Statement} {stmt : Statement}
      (h : doc.stmts = before ++ stmt :: after) : StandsAt doc (.top before) stmt
  | inSubgraph {outer : Position} {id : Option String} {before after : List Statement}
      {stmt : Statement} (houter : StandsAt doc outer (.subgraph id (before ++ stmt :: after))) :
      StandsAt doc (.inSubgraph outer id before) stmt
  | inEdge {outer : Position} {attrs : Attrs} {before after : List Statement} {stmt : Statement}
      (houter : StandsAt doc outer (.edge (before ++ stmt :: after) attrs)) :
      StandsAt doc (.inEdge outer attrs before) stmt

namespace Position

/-- The number of subgraphs around a position. -/
def subgraphs : Position → Nat
  | .top _ => 0
  | .inSubgraph outer _ _ => outer.subgraphs + 1
  | .inEdge outer _ _ => outer.subgraphs

/-- What is set before a position in its own scope and in those around it, in order. -/
def assignments : Position → Assignments
  | .top before => assignmentsOfAll before
  | .inSubgraph outer _ before => outer.assignments ++ assignmentsOfAll before
  | .inEdge outer _ before => outer.assignments ++ assignmentsOfAll before

/-- The stack of defaults at a position. -/
def defaults : Position → Defaults
  | .top before => Defaults.empty.mergeAll (assignmentsOfAll before)
  | .inSubgraph outer _ before => outer.defaults.push.mergeAll (assignmentsOfAll before)
  | .inEdge outer _ before => outer.defaults.mergeAll (assignmentsOfAll before)

/-- At a position there is one frame for each subgraph around it, and the root. -/
theorem depth_defaults (pos : Position) : pos.defaults.depth = 1 + pos.subgraphs := by
  induction pos with
  | top before => exact Defaults.depth_mergeAll _ _
  | inSubgraph outer id before ih =>
    rw [defaults, Defaults.depth_mergeAll, Defaults.depth_push, ih, subgraphs, Nat.add_assoc]
  | inEdge outer attrs before ih => rw [defaults, Defaults.depth_mergeAll, ih, subgraphs]

/-- At a position the defaults are set that stand before it, in its subgraphs and in those around.
-/
theorem current_defaults (pos : Position) :
    pos.defaults.current = DefaultFrame.empty.mergeAll pos.assignments := by
  have happend (xs ys : Assignments) : (DefaultFrame.empty.mergeAll xs).mergeAll ys =
      DefaultFrame.empty.mergeAll (xs ++ ys) := List.foldl_append.symm
  induction pos with
  | top before => exact Defaults.current_mergeAll _ _
  | inSubgraph outer id before ih =>
    rw [defaults, Defaults.current_mergeAll, Defaults.current_push, ih, happend, assignments]
  | inEdge outer attrs before ih =>
    rw [defaults, Defaults.current_mergeAll, ih, happend, assignments]

/-- The build just before the statement at a position: everything before it has been carried out in
the scope of the position. -/
def arrival (settings : Settings) (doc : Document) : Position → Progress
  | .top before => ⟨statements settings none (start doc) before, []⟩
  | .inSubgraph outer id before =>
    let p := outer.arrival settings doc
    let (id, s) := openSubgraph settings p.state p.scope id
    ⟨statements settings (some id) s before, id :: p.scopes⟩
  | .inEdge outer attrs before =>
    let p := outer.arrival settings doc
    ⟨chain settings p.scope attrs [] p.state before, p.scopes⟩

/-- A build arrives at a position with the defaults that are told by the position alone. -/
theorem defaults_arrival (pos : Position) :
    (pos.arrival settings doc).state.defaults = pos.defaults := by
  induction pos with
  | top before => exact defaults_statements none (start doc) before
  | inSubgraph outer id before ih =>
    rw [arrival, defaults_statements, defaults_openSubgraph, ih, defaults]
  | inEdge outer attrs before ih => rw [arrival, defaults_chain, ih, defaults]

end Position

/-! ### Arriving at a position -/

/-- The actions of statements in a row are those of the first ones and those of the rest. -/
theorem actionsOfAll_append (xs ys : List Statement) :
    actionsOfAll (xs ++ ys) = actionsOfAll xs ++ actionsOfAll ys := by
  induction xs with
  | nil => rfl
  | cons x xs ih => rw [List.cons_append, actionsOfAll, ih, actionsOfAll, List.append_assoc]

/-- A chain goes on behind its first elements with the ends that those leave. -/
theorem chainActions_append (attrs : Attrs) (prev : List String) (xs ys : List Statement) :
    chainActions attrs prev (xs ++ ys) =
      chainActions attrs prev xs ++ chainActions attrs (xs.foldl nextEnds prev) ys := by
  induction xs generalizing prev with
  | nil => rfl
  | cons x xs ih =>
    rw [List.cons_append, chainActions, ih, chainActions, List.foldl_cons]
    simp only [List.append_assoc]

/-- The build of a document arrives at every position in it. -/
theorem StandsAt.reaches {pos : Position} {stmt : Statement} (h : StandsAt doc pos stmt) :
    ∃ rest, Reaches settings doc (pos.arrival settings doc) (actionsOf stmt ++ rest) := by
  induction h with
  | @top before after stmt h =>
    -- the document is split at the statement, and what stands before it has been carried out
    have hinitial : Reaches settings doc (Progress.initial doc)
        (actionsOfAll before ++ (actionsOf stmt ++ actionsOfAll after)) := by
      rw [← actionsOfAll, ← actionsOfAll_append, ← h]
      exact .initial
    have hbefore := hinitial.nexts
    rw [performAll_actionsOfAll] at hbefore
    exact ⟨_, hbefore⟩
  | @inSubgraph outer id before after stmt houter ih =>
    obtain ⟨rest, hreach⟩ := ih
    rw [actionsOf, actionsOfAll_append, actionsOfAll] at hreach
    simp only [List.append_assoc] at hreach
    have hbefore := hreach.nexts.nexts
    rw [performAll_actionsOfAll] at hbefore
    exact ⟨_, hbefore⟩
  | @inEdge outer attrs before after stmt houter ih =>
    obtain ⟨rest, hreach⟩ := ih
    rw [actionsOf, chainActions_append, chainActions] at hreach
    simp only [List.append_assoc] at hreach
    have hbefore := hreach.nexts
    rw [performAll_chainActions] at hbefore
    exact ⟨_, hbefore⟩

/-- The stack of defaults at a position is a function of the position: it has one frame for each
subgraph around it above the root frame, and in the frame in force the defaults of nodes and of
edges are those that are set before the position in its own scope and in those around it. A
subgraph leaves the stack as it is, whether or not its node stays. -/
theorem arrival_defaults (settings : Settings) {pos : Position} {stmt : Statement}
    (h : StandsAt doc pos stmt) :
    let p := pos.arrival settings doc
    (∃ rest, Reaches settings doc p (actionsOf stmt ++ rest)) ∧
    p.state.defaults = pos.defaults ∧
    p.state.defaults.depth = 1 + pos.subgraphs ∧
    p.state.defaults.current.node = pos.assignments.overlaid .node ∧
    p.state.defaults.current.edge = pos.assignments.overlaid .edge ∧
    ∀ scope s id stmts,
      (statement settings scope s (.subgraph id stmts)).defaults = s.defaults := by
  have hdefaults : (pos.arrival settings doc).state.defaults = pos.defaults := pos.defaults_arrival
  have hcurrent := pos.current_defaults
  refine ⟨h.reaches, hdefaults, ?_, ?_, ?_, fun scope s id stmts => ?_⟩
  · rw [hdefaults, pos.depth_defaults]
  · rw [hdefaults, hcurrent]
    exact DefaultFrame.attrs_mergeAll _ _ .node
  · rw [hdefaults, hcurrent]
    exact DefaultFrame.attrs_mergeAll _ _ .edge
  · exact defaults_statement scope s (.subgraph id stmts)

/-- Defaults for edges are set in a chain, and a subgraph in that chain sets its own defaults for
nodes before an inner subgraph opens. -/
def chainedDefaults : Document where
  kind := .digraph
  strict := false
  id := none
  stmts := [.attr .node (Attrs.ofPairs [("shape", "box"), ("color", "blue")]),
    .edge [.node "a" Attrs.empty, .attr .edge (Attrs.ofPairs [("style", "dotted")]),
      .subgraph (some "s") [.subgraph none [.attr .node (Attrs.ofPairs [("color", "green")])],
        .attr .node (Attrs.ofPairs [("shape", "circle")]), .subgraph none []]] Attrs.empty]

/-- A position inside of a subgraph in an edge: what is set before the edge, by an element before
and in the subgraph itself is in force, what is set in a subgraph that has been closed is not. -/
theorem arrival_defaults_chainedDefaults :
    ∃ pos, StandsAt chainedDefaults pos (.subgraph none []) ∧
      let p := pos.arrival Settings.default chainedDefaults
      (∃ rest, Reaches Settings.default chainedDefaults p
        (actionsOf (.subgraph none []) ++ rest)) ∧
      p.state.defaults.depth = 2 ∧
      p.state.defaults.current.node.entries = [("color", "blue"), ("shape", "circle")] ∧
      p.state.defaults.current.edge.entries = [("style", "dotted")] := by
  have hstands : ∃ pos, StandsAt chainedDefaults pos (.subgraph none []) ∧ pos.subgraphs = 1 ∧
      (pos.assignments.overlaid .node).entries = [("color", "blue"), ("shape", "circle")] ∧
      (pos.assignments.overlaid .edge).entries = [("style", "dotted")] := by
    refine ⟨.inSubgraph (.inEdge (.top [_]) Attrs.empty [_, _]) (some "s") [_, _],
      .inSubgraph (.inEdge (.top rfl)), rfl, ?_, ?_⟩
    · rfl
    · rfl
  obtain ⟨pos, hstands, hdepth, hnode, hedge⟩ := hstands
  obtain ⟨hreach, -, hd, hn, he, -⟩ := arrival_defaults Settings.default hstands
  refine ⟨pos, hstands, hreach, ?_, ?_, ?_⟩
  · rw [hd, hdepth]
  · rw [hn, hnode]
  · rw [he, hedge]

end Build

end ClusterGraph
