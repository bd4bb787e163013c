import ClusterGraph.Proofs.Build.EdgeNames
import ClusterGraph.Proofs.Graph.Outline

/-!
# Builds on outlines

The **sketch** of a build under way is what can be seen of it: the outline of its graph in place of
the graph, and the rest of the state as it is. `Sketch.perform` says what each action does to a
sketch, with lists of rows and edges only. On a sound graph the build does the same
(`sketch_perform`), so a property of what a build shows is proved on sketches.
-/

namespace ClusterGraph.Build

/-- What can be seen of a build under way. -/
@[ext]
structure Sketch where
  outline : Outline
  defaults : Defaults
  counter : Nat
  diagnostics : List Diagnostic
  scopes : List String

namespace Sketch

/-- The innermost open subgraph. -/
def scope (k : Sketch) : Option String := k.scopes.head?

/-- Reports a diagnostic. -/
def report (k : Sketch) (d : Diagnostic) : Sketch := { k with diagnostics := k.diagnostics ++ [d] }

/-- Makes sure that a node is there. -/
def ensureNode (k : Sketch) (id : String) (scope : Option String) : Sketch :=
  let label := PlacedLabel.ofAttrs k.defaults.current.node
  if id ∈ k.outline.nodes.ids then k
  else { k with
    outline := { k.outline with nodes := k.outline.nodes.place id scope label }
    diagnostics := k.diagnostics ++ if scope = some id then [.selfNesting id] else [] }

/-- The node of a scope, if it is gone. -/
def missing (k : Sketch) (scope : Option String) : List String :=
  scope.toList.filter fun id => id ∉ k.outline.nodes.ids

/-- Overlays attributes, and a placement if one is given, on the node of a scope. -/
def mergeIntoScope (k : Sketch) (scope : Option String) (attrs : Attrs)
    (geometry : Option Geometry) : Sketch :=
  { k with
    outline := k.outline.relabel scope fun label => label.merge attrs geometry
    diagnostics := k.diagnostics ++ (k.missing scope).map .missingScope }

/-- The number in the name of the next edge between two nodes, if that edge gets a name. -/
def nextNumber (k : Sketch) (v w : String) : Option Nat :=
  if k.outline.multigraph ∧ EdgeRef.ofEnds k.outline.directed v w none ∈ k.outline.refs then
    some (k.counter + 1)
  else none

/-- Links two nodes. -/
def connect (k : Sketch) (stem v w : String) (attrs : Attrs) (points : Option (List Point)) :
    Sketch :=
  { k with
    outline := k.outline.link v w ((k.nextNumber v w).map (numbered stem))
      (EdgeLabel.ofAttrs k.defaults.current.edge) fun label => label.merge attrs points
    counter := (k.nextNumber v w).getD k.counter }

/-- The number of the next generated id that is not the id of a node. -/
def nextFree (k : Sketch) (stem : String) : Nat :=
  freeNumber (fun n => decide (numbered stem n ∈ k.outline.nodes.ids)) k.outline.nodes.ids.length
    k.counter

/-- Fixes the id of a subgraph and opens its scope of defaults. -/
def enter (k : Sketch) (stem : String) (id : Option String) : Sketch :=
  match id with
  | some id => { k with defaults := k.defaults.push, scopes := id :: k.scopes }
  | none => { k with
      defaults := k.defaults.push
      counter := k.nextFree stem
      scopes := numbered stem (k.nextFree stem) :: k.scopes }

/-- Performs one action. -/
def perform (settings : Settings) (k : Sketch) : Action → Sketch
  | .enter id => k.enter settings.subgraphIdStem id
  | .addScope =>
    match k.scopes with
    | [] => k
    | id :: outer => k.ensureNode id outer.head?
  | .addNode id => k.ensureNode id k.scope
  | .mergeNode id attrs => { k with
      outline := k.outline.relabel (some id) fun label =>
        label.merge attrs (nodeGeometry settings attrs) }
  | .attr .graph attrs => k.mergeIntoScope k.scope attrs (boundsGeometry settings attrs)
  | .attr target attrs => { k with defaults := k.defaults.merge target attrs }
  | .inlineAttr attrs => k.mergeIntoScope k.scope attrs none
  | .link v w attrs => k.connect settings.edgeNameStem v w attrs (edgePoints settings attrs)
  | .skipStatement => k.report .unknownStatementKind
  | .skipElement => k.report .invalidEdgeEndpoint
  | .elide =>
    match k.scopes with
    | [] => k
    | id :: _ => { k with outline := k.outline.elide id }
  | .leave => { k with defaults := k.defaults.pop, scopes := k.scopes.tail }

theorem missing_of_mem {k : Sketch} {id : String} (h : id ∈ k.outline.nodes.ids) :
    k.missing (some id) = [] := by
  rw [missing, Option.toList_some, List.filter_cons_of_neg (by simpa using h), List.filter_nil]

theorem missing_of_not_mem {k : Sketch} {id : String} (h : id ∉ k.outline.nodes.ids) :
    k.missing (some id) = [id] := by
  rw [missing, Option.toList_some, List.filter_cons_of_pos (by simpa using h), List.filter_nil]

theorem ensureNode_of_mem {k : Sketch} {id : String} (h : id ∈ k.outline.nodes.ids)
    (scope : Option String) : k.ensureNode id scope = k := by
  rw [ensureNode, if_pos h]

end Sketch

/-! ### Actions that have nothing to do with edges -/

/-- Whether an action neither reads nor writes edges and the counter. -/
def Action.isQuiet : Action → Bool
  | .enter none => false
  | .link _ _ _ => false
  | .elide => false
  | _ => true

namespace Sketch

/-- A sketch with other edges and another counter. -/
def withEdges (k : Sketch) (multigraph : Bool) (edges : List EdgeEntry) (counter : Nat) : Sketch :=
  { k with
    outline := { k.outline with multigraph := multigraph, edges := edges }
    counter := counter }

section WithEdges

variable (k : Sketch) (multigraph : Bool) (edges : List EdgeEntry) (counter : Nat)

theorem ensureNode_withEdges (id : String) (scope : Option String) :
    (k.withEdges multigraph edges counter).ensureNode id scope =
      (k.ensureNode id scope).withEdges multigraph edges counter := by
  rw [ensureNode, ensureNode, apply_ite fun k : Sketch => k.withEdges multigraph edges counter]
  rfl

theorem mergeIntoScope_withEdges (scope : Option String) (attrs : Attrs)
    (geometry : Option Geometry) :
    (k.withEdges multigraph edges counter).mergeIntoScope scope attrs geometry =
      (k.mergeIntoScope scope attrs geometry).withEdges multigraph edges counter := by
  cases scope <;> rfl

variable {k multigraph edges counter} {action : Action}

theorem perform_withEdges (h : action.isQuiet = true) (settings : Settings) :
    (k.withEdges multigraph edges counter).perform settings action =
      (k.perform settings action).withEdges multigraph edges counter := by
  cases action with
  | enter id =>
    cases id with
    | none => cases h
    | some id => rfl
  | addScope =>
    cases hscopes : k.scopes with
    | nil => simp only [perform, hscopes, withEdges]
    | cons id outer =>
      have hensure := k.ensureNode_withEdges multigraph edges counter id outer.head?
      simpa only [perform, hscopes, withEdges] using hensure
  | addNode id => exact k.ensureNode_withEdges multigraph edges counter id k.scope
  | attr target attrs =>
    cases target with
    | graph => exact k.mergeIntoScope_withEdges multigraph edges counter k.scope attrs _
    | node => rfl
    | edge => rfl
  | inlineAttr attrs => exact k.mergeIntoScope_withEdges multigraph edges counter k.scope attrs none
  | mergeNode | skipStatement | skipElement | leave => rfl
  | link => cases h
  | elide => cases h

theorem edges_perform (h : action.isQuiet = true) (settings : Settings) :
    (k.perform settings action).outline.edges = k.outline.edges := by
  have hframe : k.perform settings action = (k.perform settings action).withEdges
      k.outline.multigraph k.outline.edges k.counter := perform_withEdges h settings
  have hedges := congrArg (fun k : Sketch => k.outline.edges) hframe
  exact hedges

end WithEdges

end Sketch

/-! ### The sketch of a build -/

/-- What can be seen of a state, with the given open subgraphs. -/
def State.sketch (s : State) (scopes : List String) : Sketch :=
  ⟨s.graph.outline, s.defaults, s.counter, s.diagnostics, scopes⟩

/-- What can be seen of a build under way. -/
def Progress.sketch (p : Progress) : Sketch := p.state.sketch p.scopes

variable {s : State} {settings : Settings} {doc : Document} {p : Progress} {action : Action}
  {rest : List Action} {id stem v w : String} {scope : Option String} {scopes : List String}

namespace State

theorem sketch_ensureNode (h : s.graph.Sound) (hid : IsPlain id) (hscope : ∀ c ∈ scope, IsPlain c)
    (scopes : List String) :
    (s.ensureNode id scope).sketch scopes = (s.sketch scopes).ensureNode id scope := by
  have hids : s.graph.outline.nodes.ids = s.graph.nodeIds := s.graph.ids_outline
  rcases ensureNode_cases h hid hscope with ⟨hmem, heq⟩ | ⟨hmem, rfl, heq⟩ | ⟨hmem, rfl, heq⟩ |
    ⟨hmem, c, rfl, hne, heq⟩ <;> rw [heq, Sketch.ensureNode] <;>
    simp only [sketch, hids, hmem, if_true, if_false]
  -- left are a new node at the top, one whose scope has its own id, and one in another node
  · simp only [newNode, h.nested.outline_addNode hmem hid, Rows.place, reduceCtorEq, if_false,
      List.append_nil]
  · simp only [newNode, h.nested.outline_addNode hmem hid, Rows.place, report, if_true]
  · have hc : IsPlain c := hscope c rfl
    have hne' : some c ≠ some id := fun e => hne (Option.some.inj e)
    simp only [newNode, h.outline_nest_addNode hmem hid hc hne, if_neg hne', List.append_nil]

/-- On a node that is not there a change of the label does nothing. -/
theorem sketch_mergeIntoScope (scope : Option String) (attrs : Attrs) (geometry : Option Geometry)
    (scopes : List String) : (s.mergeIntoScope scope attrs geometry).sketch scopes =
      (s.sketch scopes).mergeIntoScope scope attrs geometry := by
  have hids : s.graph.outline.nodes.ids = s.graph.nodeIds := s.graph.ids_outline
  cases scope with
  | none => exact Sketch.ext rfl rfl rfl (List.append_nil _).symm rfl
  | some id =>
    by_cases hmem : id ∈ s.graph.nodeIds
    · have hmissing : (s.sketch scopes).missing (some id) = [] :=
        Sketch.missing_of_mem (hids.symm ▸ hmem)
      simp only [mergeIntoScope, Graph.hasNode_iff.2 hmem, if_true, Sketch.mergeIntoScope,
        hmissing, List.map_nil, List.append_nil]
      exact Sketch.ext (Graph.outline_modifyNode _ _ _) rfl rfl rfl rfl
    · have hmissing : (s.sketch scopes).missing (some id) = [id] :=
        Sketch.missing_of_not_mem (hids.symm ▸ hmem)
      have hsame := Rows.relabel_of_not_mem (hids ▸ hmem) fun label => label.merge attrs geometry
      simp only [mergeIntoScope, Graph.hasNode_eq_false_iff.2 hmem, Bool.false_eq_true, if_false,
        Sketch.mergeIntoScope, hmissing, List.map_cons, List.map_nil]
      exact Sketch.ext (Outline.ext rfl rfl rfl hsame.symm rfl) rfl rfl rfl rfl

/-- The name of the next edge holds the number that the sketch gives. -/
theorem nextEdgeName_eq (h : s.graph.Sound) (hv : IsPlain v) (hw : IsPlain w) (stem : String)
    (scopes : List String) :
    (s.nextEdgeName stem v w).1 = ((s.sketch scopes).nextNumber v w).map (numbered stem) ∧
      (s.nextEdgeName stem v w).2.counter =
        ((s.sketch scopes).nextNumber v w).getD s.counter := by
  have hedge : s.graph.hasEdge v w none = true ↔
      EdgeRef.ofEnds s.graph.directed v w none ∈ s.graph.edgeRefs :=
    h.linked.hasEdge_iff (EdgeRef.isStored_ofEnds hv hw nofun)
  have hguard : (s.graph.multigraph && s.graph.hasEdge v w none) = true ↔
      s.graph.multigraph = true ∧
        EdgeRef.ofEnds s.graph.directed v w none ∈ s.graph.edgeRefs := by
    rw [Bool.and_eq_true, hedge]
  have hnumber : (s.sketch scopes).nextNumber v w =
      if (s.graph.multigraph && s.graph.hasEdge v w none) = true then some (s.counter + 1)
      else none := if_congr hguard.symm rfl rfl
  rw [nextEdgeName, hnumber]
  split <;> exact ⟨rfl, rfl⟩

theorem sketch_connect (h : s.graph.Sound) (hv : IsPlain v) (hw : IsPlain w) (attrs : Attrs)
    (points : Option (List Point)) (scopes : List String) :
    (s.connect stem v w attrs points).sketch scopes =
      (s.sketch scopes).connect stem v w attrs points := by
  obtain ⟨hname, hcounter⟩ := nextEdgeName_eq h hv hw stem scopes
  have hstored : (EdgeRef.ofEnds s.graph.directed v w (s.nextEdgeName stem v w).1).IsStored
      s.graph.directed := EdgeRef.isStored_ofEnds hv hw (s.nextEdgeName_ne stem v w)
  have hedge := h.linked.hasEdge_iff hstored
  set label := EdgeLabel.ofAttrs s.defaults.current.edge
  set f := fun label : EdgeLabel => label.merge attrs points
  rw [Sketch.connect, ← hname]
  by_cases hhas : s.graph.hasEdge v w (s.nextEdgeName stem v w).1 = true
  · -- the edge is there and only its label changes
    rw [connect_of_hasEdge hhas]
    refine Sketch.ext ?_ rfl hcounter rfl rfl
    have hlink := s.graph.outline.link_of_mem label f (hedge.1 hhas)
    exact (h.linked.outline_modifyEdge hstored f).trans hlink.symm
  · -- the edge is set, with its ends, and its new label is written on at once
    have hnew := Bool.eq_false_iff.2 hhas
    rw [connect_of_not_hasEdge hnew]
    refine Sketch.ext ?_ rfl hcounter rfl rfl
    have hlink := s.graph.outline.link_of_not_mem label f fun e => hhas (hedge.2 e)
    have hset := h.outline_setEdge hv hw (s.nextEdgeName_ne stem v w) hnew label f
    exact hset.trans hlink.symm

theorem nextFree_sketch (h : s.graph.Sound) (stem : String) (scopes : List String) :
    (s.sketch scopes).nextFree stem = s.nextFree stem := by
  have hids : s.graph.outline.nodes.ids = s.graph.nodeIds := s.graph.ids_outline
  have htaken : ∀ n, decide (numbered stem n ∈ s.graph.nodeIds) =
      s.graph.hasNode (numbered stem n) := fun n => by
    rw [Bool.eq_iff_iff, decide_eq_true_iff, Graph.hasNode_iff]
  simp only [Sketch.nextFree, State.nextFree, sketch, hids, htaken, h.nested.nodeCount_eq]

/-- Closing a subgraph removes its node when nothing lies in it. -/
theorem outline_elide (h : s.graph.Sound) (hid : IsPlain id) :
    (if (s.graph.children id).isEmpty then s.removeNode id else s).graph.outline =
      s.graph.outline.elide id := by
  have hmembers : s.graph.children id = s.graph.outline.nodes.members id :=
    h.nested.children_eq hid.ne_rootId
  by_cases hempty : s.graph.outline.nodes.members id = []
  · have hlisted : s.graph.listed id = [] := by
      rw [← Graph.children_eq_listed h.nested.compound, hmembers, hempty]
    rw [if_pos (List.isEmpty_iff.2 (hmembers.trans hempty)), Outline.elide, if_pos hempty]
    exact h.outline_removeWithEdges hlisted
  · rw [if_neg fun e => hempty (hmembers.symm.trans (List.isEmpty_iff.1 e)), Outline.elide,
      if_neg hempty]

end State

/-- On a sound graph and with plain ids, an action does to the sketch of a build what it does to
the build. -/
theorem sketch_perform (settings : Settings) (h : p.Sound doc)
    (hids : ∀ id ∈ action.ids, IsPlain id) :
    (perform settings p action).sketch = p.sketch.perform settings action := by
  obtain ⟨s, scopes⟩ := p
  have hscopes := h.scopes
  cases action with
  | enter name =>
    cases name with
    | some name => rfl
    | none =>
      -- the id is searched for among the nodes, which the sketch shows as well
      have hfree := State.nextFree_sketch h.graph settings.subgraphIdStem scopes
      simp only [Sketch.perform, Sketch.enter, Progress.sketch, hfree]
      rfl
  | addScope =>
    cases scopes with
    | nil => rfl
    | cons id outer =>
      refine State.sketch_ensureNode h.graph (hscopes id List.mem_cons_self) (fun c hc => ?_) _
      exact hscopes c (List.mem_cons_of_mem _ (List.mem_of_mem_head? hc))
  | addNode id =>
    exact State.sketch_ensureNode h.graph (hids id List.mem_cons_self) h.isPlain_scope _
  | mergeNode id attrs =>
    refine Sketch.ext ?_ rfl rfl rfl rfl
    exact s.graph.outline_modifyNode id _
  | attr target attrs =>
    cases target with
    | graph => exact State.sketch_mergeIntoScope _ attrs _ scopes
    | node => rfl
    | edge => rfl
  | inlineAttr attrs => exact State.sketch_mergeIntoScope _ attrs none scopes
  | link v w attrs =>
    exact State.sketch_connect h.graph (hids v List.mem_cons_self)
      (hids w (List.mem_cons_of_mem _ List.mem_cons_self)) attrs _ scopes
  | skipStatement => rfl
  | skipElement => rfl
  | elide =>
    cases scopes with
    | nil => rfl
    | cons id outer =>
      -- both look at the same members, so they agree on whether the node goes away
      have houtline := State.outline_elide h.graph (hscopes id List.mem_cons_self)
      by_cases hempty : (s.graph.children id).isEmpty = true
      · rw [if_pos hempty] at houtline
        simp only [Build.perform, if_pos hempty]
        exact Sketch.ext houtline rfl rfl rfl rfl
      · rw [if_neg hempty] at houtline
        simp only [Build.perform, if_neg hempty]
        exact Sketch.ext houtline rfl rfl rfl rfl
  | leave => rfl

/-! ### Whole builds -/

namespace Sketch

/-- Performs actions in turn. -/
def performAll (settings : Settings) (k : Sketch) (actions : List Action) : Sketch :=
  actions.foldl (perform settings) k

theorem performAll_append (k : Sketch) (settings : Settings) (xs ys : List Action) :
    k.performAll settings (xs ++ ys) = (k.performAll settings xs).performAll settings ys :=
  List.foldl_append

/-- The sketch of a build before its first action. -/
def initial (doc : Document) : Sketch := (Progress.initial doc).sketch

/-- The sketch of a build behind its last action. -/
def final (settings : Settings) (doc : Document) : Sketch :=
  (initial doc).performAll settings (actionsOfAll doc.stmts)

end Sketch

/-- Actions on plain ids keep a build sound, and do to its sketch what they do to the build. -/
theorem Progress.Sound.sketch_performAll (hadmissible : Admissible settings doc) {p : Progress}
    {actions : List Action} (h : p.Sound doc)
    (hids : ∀ action ∈ actions, ∀ id ∈ action.ids, IsPlain id) :
    (performAll settings p actions).Sound doc ∧
      (performAll settings p actions).sketch = p.sketch.performAll settings actions := by
  induction actions generalizing p with
  | nil => exact ⟨h, rfl⟩
  | cons action actions ih =>
    have hfirst := hids action List.mem_cons_self
    have hrest := ih (h.perform hadmissible hfirst) fun action' haction' =>
      hids action' (List.mem_cons_of_mem _ haction')
    rw [sketch_perform settings h hfirst] at hrest
    exact hrest

section Builds

variable (hadmissible : Admissible settings doc)

include hadmissible

namespace Reaches

theorem sketch_next (h : Reaches settings doc p (action :: rest)) :
    (perform settings p action).sketch = p.sketch.perform settings action :=
  sketch_perform settings (h.sound hadmissible) (h.isPlain_ids hadmissible)

theorem sketch_performAll {actions : List Action} (h : Reaches settings doc p (actions ++ rest)) :
    (performAll settings p actions).sketch = p.sketch.performAll settings actions :=
  ((h.sound hadmissible).sketch_performAll hadmissible fun _ haction _ hid =>
    hadmissible.isPlain (h.isSuffix.subset (List.mem_append_left _ haction)) hid).2

/-- In a build that is not strict the next edge between two nodes is new. -/
theorem not_mem_refs_link (hstrict : doc.strict = false) {v w : String} {attrs : Attrs}
    (h : Reaches settings doc p (.link v w attrs :: rest)) :
    EdgeRef.ofEnds p.sketch.outline.directed v w
      ((p.sketch.nextNumber v w).map (numbered settings.edgeNameStem)) ∉ p.sketch.outline.refs := by
  have hids := h.isPlain_ids hadmissible
  have hv : IsPlain v := hids v List.mem_cons_self
  have hw : IsPlain w := hids w (List.mem_cons_of_mem _ List.mem_cons_self)
  have hname : (p.state.nextEdgeName settings.edgeNameStem v w).1 =
      (p.sketch.nextNumber v w).map (numbered settings.edgeNameStem) :=
    (State.nextEdgeName_eq (h.sound hadmissible).graph hv hw _ p.scopes).1
  rw [← hname]
  exact (h.edgeAdded_link hadmissible hstrict).not_mem

/-- Every edge that is seen lies between nodes that are seen. -/
theorem mem_ids_of_hasEnd (h : Reaches settings doc p rest) {ref : EdgeRef}
    (href : ref ∈ p.sketch.outline.refs) (hend : ref.HasEnd id) :
    id ∈ p.sketch.outline.nodes.ids := by
  have hmem : id ∈ p.graph.nodeIds := (h.sound hadmissible).graph.linked.mem_nodeIds href hend
  rwa [← Graph.ids_outline] at hmem

end Reaches

/-- A built graph shows its outline. -/
theorem snapshot_build :
    (doc.build settings).graph.snapshot = (doc.build settings).graph.outline.snapshot :=
  ((Reaches.build settings doc).sound hadmissible).graph.snapshot_eq

/-- A build ends with the final sketch. -/
theorem sketch_build :
    (doc.build settings).diagnostics = (Sketch.final settings doc).diagnostics ∧
    (doc.build settings).graph.outline = (Sketch.final settings doc).outline := by
  have hinitial : Reaches settings doc (Progress.initial doc) (actionsOfAll doc.stmts ++ []) := by
    rw [List.append_nil]
    exact .initial
  have hfinal := hinitial.sketch_performAll hadmissible
  rw [performAll_actionsOfAll] at hfinal
  exact ⟨congrArg Sketch.diagnostics hfinal, congrArg Sketch.outline hfinal⟩

end Builds

end ClusterGraph.Build
