import ClusterGraph.Build.Diagnostic
import ClusterGraph.Build.Naming
import ClusterGraph.Defaults
import ClusterGraph.Layout
import ClusterGraph.Settings

/-!
# The state of a build

A build walks a document once and carries a `Build.State`: the graph so far, the defaults in
force, a counter for generated names, and the diagnostics. This module holds the steps that
statements are made of: making sure that a node is there, linking two nodes, merging attributes
into the enclosing scope, and removing a node together with its edges.
-/

namespace ClusterGraph.Build

/-- What a build carries from statement to statement. -/
structure State where
  graph : Graph
  defaults : Defaults
  /-- The number last used in a generated id or edge name. -/
  counter : Nat
  /-- What was reported, the earliest first. -/
  diagnostics : List Diagnostic

namespace State

/-- Reports a diagnostic. -/
def report (s : State) (d : Diagnostic) : State := { s with diagnostics := s.diagnostics ++ [d] }

/-! ### Generated names -/

/-- The number of the next generated id with this stem that is not the id of a node. -/
def nextFree (s : State) (stem : String) : Nat :=
  freeNumber (fun n => s.graph.hasNode (numbered stem n)) s.graph.nodeCount s.counter

/-- The id of a subgraph: its own, or the next generated one that is not the id of a node. -/
def subgraphId (s : State) (stem : String) (id : Option String) : String × State :=
  match id with
  | some id => (id, s)
  | none =>
    let n := s.nextFree stem
    (numbered stem n, { s with counter := n })

/-! ### Nodes -/

/-- Makes sure that a node is there. A new one gets the defaults in force and lies in the
scope. -/
def ensureNode (s : State) (id : String) (scope : Option String) : State :=
  if s.graph.hasNode id then s
  else
    let label := PlacedLabel.ofAttrs s.defaults.current.node
    let s := { s with graph := s.graph.setNode id (some label) }
    match scope with
    | none => s
    | some scope =>
      if scope = id then s.report (.selfNesting id)
      else match s.graph.setParent id (some scope) with
        | .ok graph => { s with graph := graph }
        | .error cause => s.report (.rejected cause)

/-- Overlays attributes, and a placement if one is given, on the node of the scope, or on the
graph itself outside all scopes. -/
def mergeIntoScope (s : State) (scope : Option String) (attrs : Attrs)
    (geometry : Option Geometry) : State :=
  match scope with
  | none => { s with graph := { s.graph with label := s.graph.label.merge attrs geometry } }
  | some id =>
    if s.graph.hasNode id then
      { s with graph := s.graph.modifyNode id fun label => label.merge attrs geometry }
    else s.report (.missingScope id)

/-- Removes a node with all its edges. The graph by itself drops only unnamed ones. -/
def removeNode (s : State) (id : String) : State :=
  let refs := (s.graph.nodeEdges? id none).getD []
  let graph := refs.foldl (fun g ref => g.removeEdge ref.source ref.target ref.name) s.graph
  { s with graph := graph.removeNode id }

/-! ### Edges -/

/-- The name of the next edge between two nodes: none for the first edge, and a generated name for
every further one in a multigraph. -/
def nextEdgeName (s : State) (stem v w : String) : Option String × State :=
  if s.graph.multigraph && s.graph.hasEdge v w none then
    let n := s.counter + 1
    (some (numbered stem n), { s with counter := n })
  else (none, s)

/-- Links two nodes. A new edge gets the defaults in force; attributes and points are merged into
its label either way. -/
def connect (s : State) (stem v w : String) (attrs : Attrs) (points : Option (List Point)) :
    State :=
  let (name, s) := s.nextEdgeName stem v w
  let merged (g : Graph) : Graph := g.modifyEdge v w name fun label => label.merge attrs points
  if s.graph.hasEdge v w name then { s with graph := merged s.graph }
  else
    let label := EdgeLabel.ofAttrs s.defaults.current.edge
    match s.graph.setEdge v w (some label) name with
    | .ok graph => { s with graph := merged graph }
    | .error cause => s.report (.rejected cause)

/-- Links every node of one list with every node of another, row by row. -/
def connectAll (s : State) (stem : String) (sources targets : List String) (attrs : Attrs)
    (points : Option (List Point)) : State :=
  sources.foldl (fun s v => targets.foldl (fun s w => s.connect stem v w attrs points) s) s

end State

end ClusterGraph.Build
