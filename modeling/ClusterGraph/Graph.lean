import ClusterGraph.Label
import ClusterGraph.Table

/-!
# Compound multigraphs

A `Graph` has labelled nodes, labelled edges between them, and a label of its own. It may be
directed, it may hold several edges between the same ends told apart by names (a *multigraph*),
and its nodes may lie inside one another (a *compound* graph). Nodes, edges and the members of a
node are listed in the order in which they were added.

An edge is filed three times: in the list of edges under `Graph.edgeKey`, which in an undirected
graph does not depend on the order of the ends, and with the two ends themselves, as incoming at
the one and as outgoing at the other. Removing a node removes, for every edge that is filed with it
and still listed, the unnamed edge of the same ends.
-/

namespace ClusterGraph

/-- The ends of an edge and its name, if it has one. -/
structure EdgeRef where
  source : String
  target : String
  name : Option String
deriving DecidableEq, Inhabited

/-- What is stored about one node. -/
structure NodeEntry where
  label : PlacedLabel
  /-- The node it lies in, or `Graph.rootId`. -/
  parent : String
  /-- Edges filed as ending here, under their keys. -/
  incoming : Table EdgeRef
  /-- Edges filed as starting here, under their keys. -/
  outgoing : Table EdgeRef
deriving Inhabited

/-- What is stored about one edge. -/
structure EdgeEntry where
  ref : EdgeRef
  label : EdgeLabel
deriving Inhabited

/-- A graph with its nodes, edges and nesting. -/
structure Graph where
  directed : Bool
  multigraph : Bool
  compound : Bool
  label : PlacedLabel
  nodes : Table NodeEntry
  edges : Table EdgeEntry
  /-- The nodes that lie directly in a node; those that lie in none are under `Graph.rootId`. -/
  members : Table (List String)
  nodeCount : Nat
  edgeCount : Nat
deriving Inhabited

/-- Why a graph refuses a change. -/
inductive GraphError where
  /-- A named edge in a graph that holds one edge for each pair of ends. -/
  | namedEdge
  /-- Nesting in a graph that is not compound. -/
  | notCompound
  /-- Nesting a node inside a node that already lies in it. -/
  | cycle (parent child : String)
deriving DecidableEq

/-- The text of a refusal. -/
def GraphError.message : GraphError → String
  | namedEdge => "Cannot set a named edge when isMultigraph = false"
  | notCompound => "Cannot set parent in a non-compound graph"
  | cycle parent child =>
    "Setting " ++ parent ++ " as parent of " ++ child ++ " would create a cycle"

namespace Graph

/-- The key under which the members of the graph itself are listed. -/
def rootId : String := "\x00"

/-- The graph without nodes. -/
def empty (directed multigraph compound : Bool) : Graph where
  directed := directed
  multigraph := multigraph
  compound := compound
  label := PlacedLabel.ofAttrs Attrs.empty
  nodes := Table.empty
  edges := Table.empty
  members := if compound then Table.empty.insert rootId [] else Table.empty
  nodeCount := 0
  edgeCount := 0

/-! ### Reading -/

/-- The ids of the nodes, in order. -/
def nodeIds (g : Graph) : List String := g.nodes.keys

/-- The edges, in order. -/
def edgeRefs (g : Graph) : List EdgeRef := g.edges.values.map EdgeEntry.ref

/-- Whether there is a node with this id. -/
def hasNode (g : Graph) (id : String) : Bool := g.nodes.contains id

/-- The label of a node. -/
def node? (g : Graph) (id : String) : Option PlacedLabel := (g.nodes.get? id).map NodeEntry.label

/-- The node that a node lies in; none when it lies in the graph itself. -/
def parent? (g : Graph) (id : String) : Option String :=
  if g.compound then
    (g.nodes.get? id).bind fun entry =>
      if entry.parent = rootId then none else some entry.parent
  else none

/-- The nodes that lie directly in a node, in order. In a graph that is not compound all nodes lie
in the graph itself. -/
def children (g : Graph) (id : String) : List String :=
  if g.compound then (g.members.get? id).getD []
  else if id = rootId then g.nodeIds
  else []

/-- The ends in the order in which a graph stores them: as given, or by their ids. -/
def orderEnds (directed : Bool) (v w : String) : String × String :=
  if !directed && decide (w < v) then (w, v) else (v, w)

/-- The key under which an edge is filed: its ends and its name, with separators between them. -/
def edgeKey (directed : Bool) (v w : String) (name : Option String) : String :=
  let (a, b) := orderEnds directed v w
  a ++ "\x01" ++ b ++ "\x01" ++ name.getD "\x00"

/-- Whether there is an edge with these ends and this name. -/
def hasEdge (g : Graph) (v w : String) (name : Option String) : Bool :=
  g.edges.contains (edgeKey g.directed v w name)

/-- The label of an edge. -/
def edge? (g : Graph) (v w : String) (name : Option String) : Option EdgeLabel :=
  (g.edges.get? (edgeKey g.directed v w name)).map EdgeEntry.label

/-- The edges filed as ending at a node, only those from `other` when it is given. -/
def inEdges? (g : Graph) (id : String) (other : Option String) : Option (List EdgeRef) :=
  (g.nodes.get? id).map fun entry =>
    entry.incoming.values.filter fun ref => other.all (ref.source = ·)

/-- The edges filed as starting at a node, only those to `other` when it is given. -/
def outEdges? (g : Graph) (id : String) (other : Option String) : Option (List EdgeRef) :=
  (g.nodes.get? id).map fun entry =>
    entry.outgoing.values.filter fun ref => other.all (ref.target = ·)

/-- The edges filed with a node: the incoming ones, then the outgoing ones. -/
def nodeEdges? (g : Graph) (id : String) (other : Option String) : Option (List EdgeRef) :=
  match g.inEdges? id other, g.outEdges? id other with
  | some incoming, some outgoing => some (incoming ++ outgoing)
  | _, _ => none

/-! ### Nodes -/

/-- Lists `id` last among the members of `container`, unless it is listed there. -/
def addMember (g : Graph) (container id : String) : Graph :=
  let listed := (g.members.get? container).getD []
  { g with
    members := g.members.insert container (if id ∈ listed then listed else listed ++ [id]) }

/-- Takes `id` off the members of `container`. -/
def dropMember (g : Graph) (container id : String) : Graph :=
  { g with members := g.members.modify container fun listed => listed.erase id }

/-- Adds a node that lies in the graph itself and has no edges. -/
def addNode (g : Graph) (id : String) (label : PlacedLabel) : Graph :=
  let g := { g with
    nodes := g.nodes.insert id ⟨label, rootId, Table.empty, Table.empty⟩
    nodeCount := g.nodeCount + 1 }
  if g.compound then { g with members := g.members.insert id [] }.addMember rootId id else g

/-- Makes sure that there is a node, and sets its label when one is given. -/
def setNode (g : Graph) (id : String) (label : Option PlacedLabel) : Graph :=
  if g.hasNode id then
    match label with
    | some label => { g with nodes := g.nodes.modify id fun entry => { entry with label := label } }
    | none => g
  else g.addNode id (label.getD (PlacedLabel.ofAttrs Attrs.empty))

/-- Changes the label of a node, if there is one. -/
def modifyNode (g : Graph) (id : String) (f : PlacedLabel → PlacedLabel) : Graph :=
  { g with nodes := g.nodes.modify id fun entry => { entry with label := f entry.label } }

/-! ### Nesting -/

/-- Whether `id` is met when parents are followed from `start`, in at most `fuel` steps. -/
def isAbove (g : Graph) (id : String) : Nat → Option String → Bool
  | 0, _ => false
  | _, none => false
  | fuel + 1, some start => start == id || g.isAbove id fuel (g.parent? start)

/-- Moves a node, which is there, to the end of the members of `container`. -/
def moveTo (g : Graph) (id container : String) : Graph :=
  match g.nodes.get? id with
  | none => g
  | some entry =>
    let g := g.dropMember entry.parent id
    { g with nodes := g.nodes.modify id fun entry => { entry with parent := container } }
      |>.addMember container id

/-- Puts a node inside another, or in the graph itself. Nodes that are not there are added. -/
def setParent (g : Graph) (id : String) (parent : Option String) : Except GraphError Graph :=
  if !g.compound then .error .notCompound
  else match parent with
    | none => .ok ((g.setNode id none).moveTo id rootId)
    | some parent =>
      if g.isAbove id g.nodeCount (g.parent? parent) then .error (.cycle parent id)
      else .ok (((g.setNode parent none).setNode id none).moveTo id parent)

/-! ### Edges -/

/-- Adds an edge whose ends are nodes. -/
def addEdge (g : Graph) (v w : String) (name : Option String) (label : EdgeLabel) : Graph :=
  let key := edgeKey g.directed v w name
  let (a, b) := orderEnds g.directed v w
  let ref : EdgeRef := ⟨a, b, name⟩
  let nodes := g.nodes.modify w fun entry =>
    { entry with incoming := entry.incoming.insert key ref }
  { g with
    nodes := nodes.modify v fun entry => { entry with outgoing := entry.outgoing.insert key ref }
    edges := g.edges.insert key ⟨ref, label⟩
    edgeCount := g.edgeCount + 1 }

/-- Makes sure that there is an edge, and sets its label when one is given. Ends that are not
there are added. -/
def setEdge (g : Graph) (v w : String) (label : Option EdgeLabel) (name : Option String) :
    Except GraphError Graph :=
  if g.hasEdge v w name then
    match label with
    | some label => .ok { g with
        edges := g.edges.modify (edgeKey g.directed v w name) fun entry =>
          { entry with label := label } }
    | none => .ok g
  else if name.isSome && !g.multigraph then .error .namedEdge
  else .ok (((g.setNode v none).setNode w none).addEdge v w name
    (label.getD (EdgeLabel.ofAttrs Attrs.empty)))

/-- Changes the label of an edge, if there is one. -/
def modifyEdge (g : Graph) (v w : String) (name : Option String) (f : EdgeLabel → EdgeLabel) :
    Graph :=
  { g with
    edges := g.edges.modify (edgeKey g.directed v w name) fun entry =>
      { entry with label := f entry.label } }

/-- Removes an edge, if there is one. It is no longer filed with its ends as they are stored. -/
def removeEdge (g : Graph) (v w : String) (name : Option String) : Graph :=
  let key := edgeKey g.directed v w name
  match g.edges.get? key with
  | none => g
  | some edge =>
    let nodes := g.nodes.modify edge.ref.target fun entry =>
      { entry with incoming := entry.incoming.erase key }
    { g with
      nodes := nodes.modify edge.ref.source fun entry =>
        { entry with outgoing := entry.outgoing.erase key }
      edges := g.edges.erase key
      edgeCount := g.edgeCount - 1 }

/-- Removes the unnamed edge with the ends of the edge that is listed under a key, if one is. -/
def removeUnnamed (g : Graph) (key : String) : Graph :=
  match g.edges.get? key with
  | none => g
  | some edge => g.removeEdge edge.ref.source edge.ref.target none

/-- Removes a node: its members move to the graph itself, and for every edge filed with it and
still listed the unnamed edge of the same ends is removed. -/
def removeNode (g : Graph) (id : String) : Graph :=
  match g.nodes.get? id with
  | none => g
  | some entry =>
    let g := { g with nodes := g.nodes.erase id, nodeCount := g.nodeCount - 1 }
    let g :=
      if g.compound then
        let g := g.dropMember entry.parent id
        let g := (g.children id).foldl (fun g child => g.moveTo child rootId) g
        { g with members := g.members.erase id }
      else g
    (entry.incoming.keys ++ entry.outgoing.keys).foldl removeUnnamed g

end Graph

end ClusterGraph
