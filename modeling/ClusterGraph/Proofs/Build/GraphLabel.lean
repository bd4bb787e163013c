import ClusterGraph.Proofs.Build.Balance
import ClusterGraph.Proofs.Build.NodeSequence
import Mathlib.Data.List.Induction

/-!
# The label of a built graph

What a document writes on its graph can be read off its statements outside of subgraphs
(`Document.graphWrites`), and the label of the built graph is made of that alone
(`Build.build_label`). The same attribute statements inside a subgraph go to the node of that
subgraph, or are dropped when it is gone: while a subgraph is open, no action changes the label of
the graph (`Build.label_perform_of_scope`), so balanced actions inside a subgraph leave it as it is
(`Build.Balanced.label_performAll`).
-/

namespace ClusterGraph

/-! ### Writes on the graph itself -/

namespace Statement

mutual

/-- What a statement writes on the graph or the subgraph that it stands in, in order. What is
written inside a subgraph of its own is not among it. -/
def graphWrites : Statement → List Write
  | .node _ _ => []
  | .edge elems _ => graphWritesOfAll elems
  | .subgraph _ _ => []
  | .attr .graph attrs => [⟨.graph, none, attrs⟩]
  | .attr _ _ => []
  | .inlineAttr attrs => [⟨.inline, none, attrs⟩]
  | .unknown => []

/-- What statements write on the graph or the subgraph that they stand in. -/
def graphWritesOfAll : List Statement → List Write
  | [] => []
  | stmt :: rest => stmt.graphWrites ++ graphWritesOfAll rest

end

end Statement

/-- What a document writes on its graph, in order. -/
def Document.graphWrites (doc : Document) : List Write := Statement.graphWritesOfAll doc.stmts

/-- The attributes of the graph of a document before any statement: its id, when it has one. -/
def Document.idAttrs (doc : Document) : Attrs :=
  Attrs.ofPairs (doc.id.toList.map fun id => ("id", id))

/-- A label with writes merged into it in turn. -/
def PlacedLabel.writeAll (settings : Settings) (label : PlacedLabel) (writes : List Write) :
    PlacedLabel :=
  writes.foldl (fun label w => label.merge w.attrs (w.geometry settings)) label

/-- Writes can be made in two parts. -/
theorem PlacedLabel.writeAll_append (settings : Settings) (label : PlacedLabel)
    (writes writes' : List Write) : label.writeAll settings (writes ++ writes') =
      (label.writeAll settings writes).writeAll settings writes' := List.foldl_append

/-- Written attributes are laid over each other, and the placement that is written last counts. -/
theorem PlacedLabel.writeAll_ofAttrs (settings : Settings) (attrs : Attrs) (writes : List Write) :
    (PlacedLabel.ofAttrs attrs).writeAll settings writes =
      ⟨writes.foldl (fun attrs w => attrs.overlay w.attrs) attrs,
        lastGeometry settings writes⟩ := by
  induction writes using List.reverseRecOn with
  | nil =>
    have hnone : lastGeometry settings [] = none := by
      rw [lastGeometry]
      split <;> rfl
    rw [hnone]
    rfl
  | append_singleton writes w ih =>
    rw [writeAll_append, ih, List.foldl_append, lastGeometry_append]
    rfl

/-! ### Operations on graphs -/

namespace Graph

variable (g : Graph) (id v w : String) (name : Option String)

/-- Setting a node does not concern the label of the graph. -/
theorem label_setNode (label : Option PlacedLabel) : (g.setNode id label).label = g.label := by
  unfold setNode
  split
  · cases label <;> rfl
  · rw [addNode]
    dsimp only
    split <;> rfl

theorem label_moveTo (container : String) : (g.moveTo id container).label = g.label := by
  rw [moveTo]
  split <;> rfl

/-- Nesting a node does not concern the label of the graph. -/
theorem label_setParent {g' : Graph} {parent : Option String} (h : g.setParent id parent = .ok g') :
    g'.label = g.label := by
  unfold setParent at h
  split at h
  · cases h
  · cases parent with
    | none =>
      obtain rfl := Except.ok.inj h
      rw [label_moveTo, label_setNode]
    | some c =>
      dsimp only at h
      split at h
      · cases h
      · obtain rfl := Except.ok.inj h
        rw [label_moveTo, label_setNode, label_setNode]

/-- Setting an edge does not concern the label of the graph. -/
theorem label_setEdge {g' : Graph} {label : Option EdgeLabel}
    (h : g.setEdge v w label name = .ok g') : g'.label = g.label := by
  unfold setEdge at h
  split at h
  · cases label <;> obtain rfl := Except.ok.inj h <;> rfl
  · split at h
    · cases h
    · obtain rfl := Except.ok.inj h
      exact (label_setNode _ w none).trans (label_setNode g v none)

theorem label_removeEdge : (g.removeEdge v w name).label = g.label := by
  rw [removeEdge]
  dsimp only
  split <;> rfl

theorem label_removeUnnamed (key : String) : (g.removeUnnamed key).label = g.label := by
  rw [removeUnnamed]
  split
  · rfl
  · exact label_removeEdge ..

/-- Steps that leave the label of a graph as it is do so together. -/
theorem label_foldl {α : Type} {op : Graph → α → Graph} (hop : ∀ g a, (op g a).label = g.label)
    (l : List α) : (l.foldl op g).label = g.label := by
  induction l generalizing g with
  | nil => rfl
  | cons a l ih => exact (ih _).trans (hop g a)

/-- A node and its edges are removed without touching the label of the graph. -/
theorem label_removeNode : (g.removeNode id).label = g.label := by
  rw [removeNode]
  split
  · rfl
  · refine (label_foldl _ label_removeUnnamed _).trans ?_
    dsimp only
    split
    · exact label_foldl _ (fun g child => g.label_moveTo child rootId) _
    · rfl

end Graph

namespace Build

variable {settings : Settings} {doc : Document} {action : Action} {actions : List Action}

/-! ### Actions -/

namespace State

variable (s : State)

theorem label_ensureNode (id : String) (scope : Option String) :
    (s.ensureNode id scope).graph.label = s.graph.label := by
  rw [ensureNode]
  split
  · rfl
  · have hset := s.graph.label_setNode id (some (.ofAttrs s.defaults.current.node))
    cases scope with
    | none => exact hset
    | some c =>
      dsimp only
      split
      · exact hset
      · split
        · next hparent => exact (Graph.label_setParent _ _ hparent).trans hset
        · exact hset

/-- Outside of subgraphs, attributes go to the graph itself. -/
theorem label_mergeIntoScope_none (attrs : Attrs) (geometry : Option Geometry) :
    (s.mergeIntoScope none attrs geometry).graph.label = s.graph.label.merge attrs geometry := rfl

/-- Inside of a subgraph, attributes do not go to the graph itself. -/
theorem label_mergeIntoScope_some (c : String) (attrs : Attrs) (geometry : Option Geometry) :
    (s.mergeIntoScope (some c) attrs geometry).graph.label = s.graph.label := by
  rw [mergeIntoScope]
  split <;> rfl

theorem label_connect (stem v w : String) (attrs : Attrs) (points : Option (List Point)) :
    (s.connect stem v w attrs points).graph.label = s.graph.label := by
  have hname : (s.nextEdgeName stem v w).2.graph = s.graph := by
    rw [nextEdgeName]
    split <;> rfl
  rw [connect, ← congrArg Graph.label hname]
  generalize s.nextEdgeName stem v w = next
  dsimp only
  split
  · rfl
  · split
    · next g hset =>
      have hlabel : g.label = next.2.graph.label := Graph.label_setEdge _ v w next.1 hset
      exact hlabel
    · rfl

theorem label_removeNode (id : String) : (s.removeNode id).graph.label = s.graph.label := by
  have hedge (g : Graph) (ref : EdgeRef) :
      (g.removeEdge ref.source ref.target ref.name).label = g.label := g.label_removeEdge ..
  rw [removeNode, Graph.label_removeNode, Graph.label_foldl _ hedge]

end State

/-- Whether an action merges attributes into the enclosing scope. -/
def Action.writesOnScope : Action → Bool
  | .attr .graph _ => true
  | .inlineAttr _ => true
  | _ => false

/-- Only actions that write on the scope can reach the graph itself. -/
theorem label_perform_of_not_writesOnScope (settings : Settings) (p : Progress)
    (h : action.writesOnScope = false) :
    (perform settings p action).graph.label = p.graph.label := by
  obtain ⟨s, scopes⟩ := p
  cases action with
  | enter id => cases id <;> rfl
  | addScope =>
    cases scopes with
    | nil => rfl
    | cons id outer => exact s.label_ensureNode id outer.head?
  | addNode id => exact s.label_ensureNode id scopes.head?
  | attr target attrs =>
    cases target with
    | graph => cases h
    | node | edge => rfl
  | inlineAttr attrs => cases h
  | link v w attrs => exact s.label_connect _ v w attrs _
  | elide =>
    cases scopes with
    | nil => rfl
    | cons id outer =>
      rw [perform]
      dsimp only [Progress.graph]
      -- whether the subgraph is empty or not, the graph keeps its label
      split
      · exact s.label_removeNode id
      · rfl
  | mergeNode | skipStatement | skipElement | leave => rfl

/-- While a subgraph is open, no action changes the label of the graph. -/
theorem label_perform_of_scope (settings : Settings) (p : Progress) (action : Action)
    (hopen : p.scopes ≠ []) : (perform settings p action).graph.label = p.graph.label := by
  cases hwrites : action.writesOnScope with
  | false => exact label_perform_of_not_writesOnScope settings p hwrites
  | true =>
    obtain ⟨c, outer, hscopes⟩ := List.exists_cons_of_ne_nil hopen
    have hscope : p.scope = some c := congrArg List.head? hscopes
    cases action with
    | attr target attrs =>
      cases target with
      | graph =>
        have hlabel := p.state.label_mergeIntoScope_some c attrs (boundsGeometry settings attrs)
        rwa [← hscope] at hlabel
      | node | edge => cases hwrites
    | inlineAttr attrs =>
      have hlabel := p.state.label_mergeIntoScope_some c attrs none
      rwa [← hscope] at hlabel
    | _ => cases hwrites

/-- A subgraph whose body leaves the label of the graph as it is does so too, from the opening to
the closing. -/
theorem label_closed (settings : Settings) (p : Progress)
    (name : Option String)
    (hbody : ∀ p : Progress, p.scopes ≠ [] →
      (performAll settings p actions).graph.label = p.graph.label) :
    ((performAll settings (p.opened settings name) actions).closed settings).graph.label =
      p.graph.label := by
  have hopen : (p.opened settings name).scopes ≠ [] := by
    rw [p.scopes_opened]
    exact List.cons_ne_nil _ _
  have hopened : (p.opened settings name).graph.label = p.graph.label :=
    (label_perform_of_not_writesOnScope settings _ rfl).trans
      (label_perform_of_not_writesOnScope settings p rfl)
  have hclosed (q : Progress) : (q.closed settings).graph.label = q.graph.label :=
    (label_perform_of_not_writesOnScope settings _ rfl).trans
      (label_perform_of_not_writesOnScope settings q rfl)
  rw [hclosed, hbody _ hopen, hopened]

/-- Balanced actions inside a subgraph leave the label of the graph as it is. -/
theorem Balanced.label_performAll (settings : Settings) (h : Balanced actions) {p : Progress}
    (hopen : p.scopes ≠ []) : (performAll settings p actions).graph.label = p.graph.label := by
  induction h generalizing p with
  | nil => rfl
  | @cons action rest haction _ ih =>
    have hscopes := scopes_perform_of_staysInScope settings p haction
    rw [performAll_cons, ih (by rwa [hscopes]), label_perform_of_scope settings p action hopen]
  | @subgraph body rest name hbody _ ihbody ihrest =>
    rw [performAll_cons, performAll_cons, performAll_append, performAll_cons, performAll_cons]
    have hbodyAll := hbody.scopes_performAll settings (p.opened settings name)
    have hscopes : ((performAll settings (p.opened settings name) body).closed settings).scopes =
        p.scopes := by
      rw [Progress.scopes_closed, hbodyAll, Progress.scopes_opened, List.tail_cons]
    have hlabel := label_closed settings p name fun q hq => ihbody hq
    exact (ihrest fun hnil => hopen (hscopes.symm.trans hnil)).trans hlabel

/-- Links and reports of chains leave the label of the graph as it is. -/
theorem label_linkActions (settings : Settings) (attrs : Attrs) (prev : List String)
    (elem : Statement) (p : Progress) :
    (performAll settings p (linkActions attrs prev elem)).graph.label = p.graph.label := by
  have hquiet : ∀ action ∈ linkActions attrs prev elem, action.writesOnScope = false := by
    intro action haction
    rcases eq_of_mem_linkActions haction with rfl | ⟨v, w, rfl⟩ <;> rfl
  generalize linkActions attrs prev elem = actions at hquiet ⊢
  induction actions generalizing p with
  | nil => rfl
  | cons action actions ih =>
    obtain ⟨hfirst, hrest⟩ := List.forall_mem_cons.1 hquiet
    rw [performAll_cons, ih _ hrest, label_perform_of_not_writesOnScope settings p hfirst]

/-- A subgraph leaves the label of the graph as it is, whatever it stands in. -/
theorem label_subgraph (settings : Settings) (p : Progress) (id : Option String)
    (stmts : List Statement) :
    (performAll settings p (actionsOf (.subgraph id stmts))).graph.label = p.graph.label := by
  rw [actionsOf, performAll_append, performAll_append]
  exact label_closed settings p id fun q hq =>
    (balanced_actionsOfAll stmts).label_performAll settings hq

/-! ### Statements outside of subgraphs -/

mutual

/-- Outside of subgraphs a statement merges what it writes into the label of the graph. -/
theorem label_actionsOf (settings : Settings) {p : Progress} (hp : p.scopes = []) :
    ∀ stmt : Statement, (performAll settings p (actionsOf stmt)).graph.label =
      p.graph.label.writeAll settings stmt.graphWrites
  | .node id attrs => label_perform_of_not_writesOnScope settings p
    (rfl : (Action.addNode id).writesOnScope = false)
  | .edge elems attrs => label_chainActions settings hp attrs [] elems
  | .subgraph id stmts => label_subgraph settings p id stmts
  | .attr .graph attrs => by
    have hscope : p.scope = none := congrArg List.head? hp
    have hlabel := p.state.label_mergeIntoScope_none attrs (boundsGeometry settings attrs)
    rwa [← hscope] at hlabel
  | .attr .node attrs => rfl
  | .attr .edge attrs => rfl
  | .inlineAttr attrs => by
    have hscope : p.scope = none := congrArg List.head? hp
    have hlabel := p.state.label_mergeIntoScope_none attrs none
    rwa [← hscope] at hlabel
  | .unknown => rfl

/-- Statements in a row write on the graph in turn. -/
theorem label_actionsOfAll (settings : Settings) {p : Progress} (hp : p.scopes = []) :
    ∀ stmts : List Statement, (performAll settings p (actionsOfAll stmts)).graph.label =
      p.graph.label.writeAll settings (Statement.graphWritesOfAll stmts)
  | [] => rfl
  | stmt :: rest => by
    have hscopes := (balanced_actionsOf stmt).scopes_performAll settings p
    rw [actionsOfAll, performAll_append, label_actionsOfAll settings (hscopes.trans hp) rest,
      label_actionsOf settings hp stmt, Statement.graphWritesOfAll, PlacedLabel.writeAll_append]

/-- Outside of subgraphs, the elements of a chain write on the graph as if they stood by themselves.
-/
theorem label_chainActions (settings : Settings) {p : Progress} (hp : p.scopes = [])
    (attrs : Attrs) (prev : List String) : ∀ elems : List Statement,
    (performAll settings p (chainActions attrs prev elems)).graph.label =
      p.graph.label.writeAll settings (Statement.graphWritesOfAll elems)
  | [] => rfl
  | elem :: rest => by
    have hbalanced := (balanced_actionsOf elem).append (balanced_linkActions attrs prev elem)
    have hscopes := hbalanced.scopes_performAll settings p
    rw [chainActions, performAll_append,
      label_chainActions settings (hscopes.trans hp) attrs _ rest, performAll_append,
      label_linkActions, label_actionsOf settings hp elem, Statement.graphWritesOfAll,
      PlacedLabel.writeAll_append]

end

/-- The label of a built graph is made of the id of the document and of what the document writes
outside of subgraphs: the attributes laid over each other in order, and the placement that is
written last. A subgraph, whatever is in it and whether or not its node stays, leaves the label as
it is. -/
theorem build_label (settings : Settings) (doc : Document) :
    (doc.build settings).graph.label =
      ⟨doc.graphWrites.foldl (fun attrs w => attrs.overlay w.attrs) doc.idAttrs,
        lastGeometry settings doc.graphWrites⟩ ∧
    ∀ scope s id stmts,
      (statement settings scope s (.subgraph id stmts)).graph.label = s.graph.label := by
  refine ⟨?_, fun scope s id stmts => ?_⟩
  · have hid : (PlacedLabel.ofGraphId doc.id) = .ofAttrs doc.idAttrs := by
      unfold Document.idAttrs PlacedLabel.ofGraphId
      cases doc.id <;> rfl
    have hlabel := label_actionsOfAll settings (p := .initial doc) rfl doc.stmts
    rw [performAll_actionsOfAll] at hlabel
    refine hlabel.trans ?_
    exact (congrArg (PlacedLabel.writeAll settings · doc.graphWrites) hid).trans
      (PlacedLabel.writeAll_ofAttrs settings doc.idAttrs doc.graphWrites)
  · have hscope : Progress.scope ⟨s, scope.toList⟩ = scope := by cases scope <;> rfl
    have hlabel := label_subgraph settings ⟨s, scope.toList⟩ id stmts
    rwa [performAll_actionsOf, hscope] at hlabel

end Build

end ClusterGraph
