import ClusterGraph.Json.Writer

/-!
# Settings

How a graph is built from a document: whether layout attributes are decoded and with which
factors, and how generated ids and edge names start.
-/

namespace ClusterGraph

/-- The settings of a build. -/
structure Settings where
  /-- Whether layout attributes are decoded into placements. -/
  decodeLayout : Bool
  nodeWidthScale : Float
  nodeHeightScale : Float
  boundsHeightDivisor : Float
  /-- What the ids of anonymous subgraphs start with. -/
  subgraphIdStem : String
  /-- What the names of parallel edges start with. -/
  edgeNameStem : String
deriving DecidableEq

namespace Settings

/-- The settings in force where nothing else is said. -/
def default : Settings where
  decodeLayout := true
  nodeWidthScale := Decimal.toFloat ⟨64, 0⟩ false
  nodeHeightScale := Decimal.toFloat ⟨48, 0⟩ false
  boundsHeightDivisor := Decimal.toFloat ⟨64, 0⟩ false
  subgraphIdStem := "sg"
  edgeNameStem := "edge"

instance : Inhabited Settings := ⟨default⟩

/-- Settings as an object. -/
def toJson (settings : Settings) : Json :=
  .object [("decodeLayout", .bool settings.decodeLayout),
    ("nodeWidthScale", .float settings.nodeWidthScale),
    ("nodeHeightScale", .float settings.nodeHeightScale),
    ("boundsHeightDivisor", .float settings.boundsHeightDivisor),
    ("subgraphIdPrefix", .string settings.subgraphIdStem),
    ("edgeNamePrefix", .string settings.edgeNameStem)]

end Settings

end ClusterGraph
