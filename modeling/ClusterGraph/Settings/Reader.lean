import ClusterGraph.Json5.Reader
import ClusterGraph.Json5.Value
import ClusterGraph.Settings

/-!
# Settings from JSON5 texts

Settings are read from an object with known entries, each of which has a default, or from an array
of the same values in order. Unknown entries must have a value and are not used; of an array that
is too long the rest is not looked at.
-/

namespace ClusterGraph.Settings

open Json5

/-- The entries that have been read. -/
structure Partial where
  decodeLayout : Option Bool
  nodeWidthScale : Option Float
  nodeHeightScale : Option Float
  boundsHeightDivisor : Option Float
  subgraphIdStem : Option String
  edgeNameStem : Option String

/-- The settings with these entries, and the defaults for the others. -/
def ofPartial (acc : Partial) : Settings where
  decodeLayout := acc.decodeLayout.getD default.decodeLayout
  nodeWidthScale := acc.nodeWidthScale.getD default.nodeWidthScale
  nodeHeightScale := acc.nodeHeightScale.getD default.nodeHeightScale
  boundsHeightDivisor := acc.boundsHeightDivisor.getD default.boundsHeightDivisor
  subgraphIdStem := acc.subgraphIdStem.getD default.subgraphIdStem
  edgeNameStem := acc.edgeNameStem.getD default.edgeNameStem

/-- Reads one entry. -/
def readField (acc : Partial) (key : String) (value : Json5) : Except Fault Partial :=
  if key = "decodeLayout" then do
    .ok { acc with decodeLayout := ← takeEntry key acc.decodeLayout value.toBool }
  else if key = "nodeWidthScale" then do
    .ok { acc with nodeWidthScale := ← takeEntry key acc.nodeWidthScale value.toFloat }
  else if key = "nodeHeightScale" then do
    .ok { acc with nodeHeightScale := ← takeEntry key acc.nodeHeightScale value.toFloat }
  else if key = "boundsHeightDivisor" then do
    .ok { acc with boundsHeightDivisor := ← takeEntry key acc.boundsHeightDivisor value.toFloat }
  else if key = "subgraphIdPrefix" then do
    .ok { acc with subgraphIdStem := ← takeEntry key acc.subgraphIdStem value.toText }
  else if key = "edgeNamePrefix" then do
    .ok { acc with edgeNameStem := ← takeEntry key acc.edgeNameStem value.toText }
  else do
    let _ ← value.toJson
    .ok acc

/-- Reads entries one after another. -/
def readFields (acc : Partial) : List (List Part × Json5) → Except Fault Partial
  | [] => .ok acc
  | (key, value) :: rest => do readFields (← readField acc (← Json5.text key) value) rest

/-- The names of the entries, in the order of an array. -/
def fieldNames : List String :=
  ["decodeLayout", "nodeWidthScale", "nodeHeightScale", "boundsHeightDivisor", "subgraphIdPrefix",
    "edgeNamePrefix"]

/-- Reads items one after another, each as the entry of a name. -/
def readItems (acc : Partial) : List (String × Json5) → Except Fault Partial
  | [] => .ok acc
  | (name, value) :: rest => do readItems (← readField acc name value) rest

/-- Reads settings from a value. -/
def ofJson5 (value : Json5) : Except Fault Settings :=
  let none : Partial := ⟨none, none, none, none, none, none⟩
  match value with
  | .object fields => (readFields none fields).map ofPartial
  | .array items => (readItems none (fieldNames.zip items)).map ofPartial
  | value => Json5.reject "struct BuildConfig" value

/-- Reads settings from a whole JSON5 text. -/
def read (text : String) : Except Json5.Error Settings :=
  match Json5.ofText? text with
  | none => .error .grammar
  | some value =>
    match ofJson5 value with
    | .ok settings => .ok settings
    | .error cause => .error (.fault cause)

end ClusterGraph.Settings
