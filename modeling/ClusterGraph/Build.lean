import ClusterGraph.Build.State
import ClusterGraph.Statement.Mentions

/-!
# Building a graph from a document

`Document.build` walks the statements of a document in order and builds a compound graph.

* **Nodes** are created where they are mentioned first, with the node defaults in force there, in
  the enclosing subgraph; attributes of later mentions are merged in.
* **Edge statements** link each element of a chain with the one before it. A subgraph stands for
  all nodes mentioned in it, so the links are a cross product. An element that is neither a node
  nor a subgraph is carried out, reported and left out of the chain.
* **Subgraphs** are nodes that hold the nodes created in them, and scopes for defaults. One
  without members at its end is removed again.
* **Graph attributes** go to the node of the enclosing subgraph, or to the graph itself.
-/

namespace ClusterGraph

namespace Build

/-! ### Placements -/

/-- The value of an attribute that holds a layout text, if layout is decoded and there is one. -/
def layoutText (settings : Settings) (attrs : Attrs) (key : String) : Option (List Char) :=
  if settings.decodeLayout then
    match attrs.get? key with
    | some text => if text.isEmpty then none else some text.toList
    | none => none
  else none

/-- The placement of a node, from the attributes of its own statement. -/
def nodeGeometry (settings : Settings) (attrs : Attrs) : Option Geometry :=
  (layoutText settings attrs "pos").map fun pos =>
    let center := Layout.point pos
    let size (key : String) (scale : Float) : Float :=
      Layout.scaled ((attrs.get? key).map String.toList) scale
    ⟨center.x, center.y, size "width" settings.nodeWidthScale,
      size "height" settings.nodeHeightScale⟩

/-- The placement of a cluster or of the whole graph. -/
def boundsGeometry (settings : Settings) (attrs : Attrs) : Option Geometry :=
  (layoutText settings attrs "bb").map fun bb => Layout.boundingBox bb settings.boundsHeightDivisor

/-- The points of an edge. -/
def edgePoints (settings : Settings) (attrs : Attrs) : Option (List Point) :=
  (layoutText settings attrs "pos").map Layout.spline

/-- A layout text counts if layout is decoded, unless it is empty. -/
theorem layoutText_eq (settings : Settings) (attrs : Attrs) (key : String) :
    layoutText settings attrs key = if settings.decodeLayout then
      ((attrs.get? key).filter fun text => text ≠ "").map String.toList else none := by
  rw [layoutText]
  split
  · cases attrs.get? key with
    | none => rfl
    | some text =>
      by_cases htext : text = ""
      · simp [Option.filter, htext]
      · simp [Option.filter, htext]
  · rfl

/-- A layout text is a text that is not empty, where layout is decoded. -/
theorem layoutText_eq_some_iff {settings : Settings} {attrs : Attrs} {key : String}
    {cs : List Char} : layoutText settings attrs key = some cs ↔
      settings.decodeLayout = true ∧
        ∃ text, attrs.get? key = some text ∧ text ≠ "" ∧ text.toList = cs := by
  rw [layoutText_eq]
  split
  · next hdecode => simp [Option.filter_eq_some_iff, hdecode, and_assoc]
  · next hdecode => simp [hdecode]

/-- A node is placed where layout is decoded and its own statement has a position: at the first
number of that position and the negated second one. Its sizes are those of the same statement times
their scales. A number that is missing is not-a-number. -/
theorem nodeGeometry_eq_some_iff {settings : Settings} {attrs : Attrs} {geometry : Geometry} :
    nodeGeometry settings attrs = some geometry ↔
      settings.decodeLayout = true ∧ ∃ pos, attrs.get? "pos" = some pos ∧ pos ≠ "" ∧
        geometry = {
          x := Layout.numberAt (pos.toList.splitOn ',') 0
          y := -Layout.numberAt (pos.toList.splitOn ',') 1
          width := ((attrs.get? "width").elim nan fun width =>
            Layout.leadingNumber width.toList) * settings.nodeWidthScale
          height := ((attrs.get? "height").elim nan fun height =>
            Layout.leadingNumber height.toList) * settings.nodeHeightScale } := by
  have hsize : ∀ (raw : Option String) (scale : Float),
      Layout.scaled (raw.map String.toList) scale =
        (raw.elim nan fun text => Layout.leadingNumber text.toList) * scale := by
    intro raw scale
    cases raw <;> rfl
  simp only [nodeGeometry, Option.map_eq_some_iff, layoutText_eq_some_iff, Layout.point, hsize]
  constructor
  · rintro ⟨_, ⟨hdecode, pos, hpos, hne, rfl⟩, rfl⟩
    exact ⟨hdecode, pos, hpos, hne, rfl⟩
  · rintro ⟨hdecode, pos, hpos, hne, rfl⟩
    exact ⟨pos.toList, ⟨hdecode, pos, hpos, hne, rfl⟩, rfl⟩

/-- A cluster, or the whole graph, is placed where layout is decoded and its attributes have bounds:
at the first number of those and the negated second one, in the third number and the fourth one over
its divisor. A number that is missing is not-a-number. -/
theorem boundsGeometry_eq_some_iff {settings : Settings} {attrs : Attrs} {geometry : Geometry} :
    boundsGeometry settings attrs = some geometry ↔
      settings.decodeLayout = true ∧ ∃ bb, attrs.get? "bb" = some bb ∧ bb ≠ "" ∧
        geometry = {
          x := Layout.numberAt (bb.toList.splitOn ',') 0
          y := -Layout.numberAt (bb.toList.splitOn ',') 1
          width := Layout.numberAt (bb.toList.splitOn ',') 2
          height := Layout.numberAt (bb.toList.splitOn ',') 3 / settings.boundsHeightDivisor } := by
  simp only [boundsGeometry, Option.map_eq_some_iff, layoutText_eq_some_iff, Layout.boundingBox]
  constructor
  · rintro ⟨_, ⟨hdecode, bb, hbb, hne, rfl⟩, rfl⟩
    exact ⟨hdecode, bb, hbb, hne, rfl⟩
  · rintro ⟨hdecode, bb, hbb, hne, rfl⟩
    exact ⟨bb.toList, ⟨hdecode, bb, hbb, hne, rfl⟩, rfl⟩

/-! ### Statements -/

/-- A node statement. -/
def nodeStatement (settings : Settings) (s : State) (scope : Option String) (id : String)
    (attrs : Attrs) : State :=
  let s := s.ensureNode id scope
  { s with graph := s.graph.modifyNode id fun label =>
      label.merge attrs (nodeGeometry settings attrs) }

/-- An attribute statement. -/
def attrStatement (settings : Settings) (s : State) (scope : Option String) (target : AttrTarget)
    (attrs : Attrs) : State :=
  match target with
  | .graph => s.mergeIntoScope scope attrs (boundsGeometry settings attrs)
  | target => { s with defaults := s.defaults.merge target attrs }

/-- Opens a subgraph: its scope of defaults, and its node. -/
def openSubgraph (settings : Settings) (s : State) (scope : Option String) (id : Option String) :
    String × State :=
  let (id, s) := s.subgraphId settings.subgraphIdStem id
  (id, State.ensureNode { s with defaults := s.defaults.push } id scope)

/-- Closes a subgraph: one without members is removed, and its scope of defaults ends. -/
def closeSubgraph (s : State) (id : String) : State :=
  let s := if (s.graph.children id).isEmpty then s.removeNode id else s
  { s with defaults := s.defaults.pop }

/-- What an element of a chain stands for; nothing when it is neither a node nor a subgraph. -/
def endpoints : Statement → Option (List String)
  | .node id _ => some [id]
  | .subgraph id stmts => some (Statement.subgraph id stmts).mentionedIds
  | _ => none

/-- Goes on with a chain behind an element that has been carried out: links the nodes that it
stands for with those before, or reports it. The first component is what comes before the next
element. -/
def extendChain (settings : Settings) (attrs : Attrs) (prev : List String) (elem : Statement)
    (s : State) : List String × State :=
  match endpoints elem with
  | none => (prev, s.report .invalidEdgeEndpoint)
  | some curr =>
    (curr, s.connectAll settings.edgeNameStem prev curr attrs (edgePoints settings attrs))

mutual

/-- Carries out a statement in a scope. -/
def statement (settings : Settings) (scope : Option String) (s : State) : Statement → State
  | .node id attrs => nodeStatement settings s scope id attrs
  | .edge elems attrs => chain settings scope attrs [] s elems
  | .subgraph id stmts =>
    let (id, s) := openSubgraph settings s scope id
    closeSubgraph (statements settings (some id) s stmts) id
  | .attr target attrs => attrStatement settings s scope target attrs
  | .inlineAttr attrs => s.mergeIntoScope scope attrs none
  | .unknown => s.report .unknownStatementKind

/-- Carries out statements one after another. -/
def statements (settings : Settings) (scope : Option String) (s : State) : List Statement → State
  | [] => s
  | stmt :: rest => statements settings scope (statement settings scope s stmt) rest

/-- Carries out the elements of a chain, each of which is linked with `prev`, the one before. -/
def chain (settings : Settings) (scope : Option String) (attrs : Attrs) (prev : List String)
    (s : State) : List Statement → State
  | [] => s
  | elem :: rest =>
    let (prev, s) := extendChain settings attrs prev elem (statement settings scope s elem)
    chain settings scope attrs prev s rest

end

/-- The state before the first statement of a document. -/
def start (doc : Document) : State where
  graph := { Graph.empty doc.kind.isDirected (!doc.strict) true with
    label := PlacedLabel.ofGraphId doc.id }
  defaults := Defaults.empty
  counter := 0
  diagnostics := []

/-- A built graph and what was reported on the way. -/
structure Output where
  graph : Graph
  diagnostics : List Diagnostic

/-- The sizes of a built graph and the diagnostics, on one line. -/
def Output.summary (output : Output) : String :=
  "BuildOutput \x7b nodes: " ++ toString output.graph.nodeCount ++
    ", edges: " ++ toString output.graph.edgeCount ++
    ", diagnostics: [" ++ ", ".intercalate (output.diagnostics.map Diagnostic.summary) ++ "] \x7d"

end Build

/-- Builds the graph of a document. -/
def Document.build (settings : Settings) (doc : Document) : Build.Output :=
  let s := Build.statements settings none (Build.start doc) doc.stmts
  ⟨s.graph, s.diagnostics⟩

end ClusterGraph
