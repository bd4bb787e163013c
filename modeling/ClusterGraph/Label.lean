import ClusterGraph.Attrs

/-!
# Labels

What a built graph stores about its nodes, its edges and itself: attributes, and the placement
decoded from them. Labels are merged into: attributes are overlaid name by name, edge points
position by position, and a decoded placement replaces an earlier one.
-/

namespace ClusterGraph

/-- A point in the plane, with y growing downward. -/
structure Point where
  x : Float
  y : Float
deriving DecidableEq

/-- The placement of a node or a cluster: its position and its size. -/
structure Geometry where
  x : Float
  y : Float
  width : Float
  height : Float
deriving DecidableEq

/-- What is stored about a node, or about the graph as a whole. -/
structure PlacedLabel where
  attrs : Attrs
  geometry : Option Geometry
deriving DecidableEq, Inhabited

/-- What is stored about an edge. -/
structure EdgeLabel where
  attrs : Attrs
  points : Option (List Point)
deriving DecidableEq, Inhabited

namespace PlacedLabel

/-- A label with attributes and no placement. -/
def ofAttrs (attrs : Attrs) : PlacedLabel := ⟨attrs, none⟩

/-- The label of a whole graph before any statement: its id, when the document has one. -/
def ofGraphId (id : Option String) : PlacedLabel :=
  ofAttrs (match id with
    | some id => Attrs.empty.insert "id" id
    | none => Attrs.empty)

/-- The value of one attribute. -/
def attr? (label : PlacedLabel) (key : String) : Option String := label.attrs.get? key

/-- Overlays attributes, and replaces the placement when one is given. -/
def merge (label : PlacedLabel) (attrs : Attrs) (geometry : Option Geometry) : PlacedLabel :=
  ⟨label.attrs.overlay attrs, geometry.or label.geometry⟩

end PlacedLabel

/-- `new` laid over `old` position by position: the longer list keeps its tail. -/
def overlayPoints : (old new : List Point) → List Point
  | old, [] => old
  | [], new => new
  | _ :: old, p :: new => p :: overlayPoints old new

namespace EdgeLabel

/-- A label with attributes and no points. -/
def ofAttrs (attrs : Attrs) : EdgeLabel := ⟨attrs, none⟩

/-- The value of one attribute. -/
def attr? (label : EdgeLabel) (key : String) : Option String := label.attrs.get? key

/-- Overlays attributes, and overlays the points position by position when some are given. -/
def merge (label : EdgeLabel) (attrs : Attrs) (points : Option (List Point)) : EdgeLabel where
  attrs := label.attrs.overlay attrs
  points := match points with
    | none => label.points
    | some new => some (overlayPoints (label.points.getD []) new)

end EdgeLabel

end ClusterGraph
