import ClusterGraph.Graph
import ClusterGraph.Statement.ToJson

/-!
# Snapshots of graphs

A `Snapshot` lists what a graph holds: its options, its own label, its nodes with their place in
the nesting, and its edges, in the order in which they were added. It is what is written as the
result of a build.
-/

namespace ClusterGraph

/-- A node in a snapshot. -/
structure NodeSnapshot where
  id : String
  parent : Option String
  children : List String
  attrs : Attrs
  geometry : Option Geometry
deriving DecidableEq

/-- An edge in a snapshot. -/
structure EdgeSnapshot where
  source : String
  target : String
  name : Option String
  attrs : Attrs
  points : Option (List Point)
deriving DecidableEq

/-- What a graph holds. -/
structure Snapshot where
  directed : Bool
  multigraph : Bool
  compound : Bool
  label : PlacedLabel
  nodes : List NodeSnapshot
  edges : List EdgeSnapshot
deriving DecidableEq

/-- Lists what a graph holds. -/
def Graph.snapshot (g : Graph) : Snapshot where
  directed := g.directed
  multigraph := g.multigraph
  compound := g.compound
  label := g.label
  nodes := g.nodeIds.filterMap fun id => (g.node? id).map fun label =>
    ⟨id, g.parent? id, g.children id, label.attrs, label.geometry⟩
  edges := g.edgeRefs.filterMap fun ref => (g.edge? ref.source ref.target ref.name).map fun label =>
    ⟨ref.source, ref.target, ref.name, label.attrs, label.points⟩

/-! ### As JSON -/

/-- A point as an object. -/
def Point.toJson (p : Point) : Json := .object [("x", .float p.x), ("y", .float p.y)]

/-- A placement as an object. -/
def Geometry.toJson (g : Geometry) : Json :=
  .object [("x", .float g.x), ("y", .float g.y), ("width", .float g.width),
    ("height", .float g.height)]

/-- The entry of a field that is left out when it has no value. -/
def optionalField (key : String) : Option Json → List (String × Json)
  | some value => [(key, value)]
  | none => []

/-- A label as an object. -/
def PlacedLabel.toJson (label : PlacedLabel) : Json :=
  .object (("attrs", label.attrs.toJson) ::
    optionalField "geometry" (label.geometry.map Geometry.toJson))

/-- A node as an object. -/
def NodeSnapshot.toJson (node : NodeSnapshot) : Json :=
  .object ([("id", .string node.id), ("parent", Json.ofString? node.parent),
    ("children", Json.ofStrings node.children), ("attrs", node.attrs.toJson)] ++
    optionalField "geometry" (node.geometry.map Geometry.toJson))

/-- An edge as an object. -/
def EdgeSnapshot.toJson (edge : EdgeSnapshot) : Json :=
  .object ([("v", .string edge.source), ("w", .string edge.target)] ++
    optionalField "name" (edge.name.map Json.string) ++ [("attrs", edge.attrs.toJson)] ++
    optionalField "points" (edge.points.map fun points => .array (points.map Point.toJson)))

/-- A snapshot as an object. -/
def Snapshot.toJson (snapshot : Snapshot) : Json :=
  .object [("directed", .bool snapshot.directed), ("multigraph", .bool snapshot.multigraph),
    ("compound", .bool snapshot.compound), ("graph", snapshot.label.toJson),
    ("nodes", .array (snapshot.nodes.map NodeSnapshot.toJson)),
    ("edges", .array (snapshot.edges.map EdgeSnapshot.toJson))]

/-- The text of a graph, over several lines or without blanks. -/
def Graph.text (g : Graph) (overLines : Bool) : String := g.snapshot.toJson.text overLines

end ClusterGraph
