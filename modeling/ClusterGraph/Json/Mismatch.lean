import ClusterGraph.Decimal.Notation
import ClusterGraph.Json.Basic
import ClusterGraph.Text.Quoted

/-!
# Mismatches

A text can be well formed and still not hold what is expected: a value of the wrong type, an
unknown word, a missing or repeated entry, an array of the wrong length. `Mismatch` lists these
causes and `Mismatch.message` words them. How numbers and `null` are named depends on the format
that was read, which a `Wording` fixes.
-/

namespace ClusterGraph

/-- What was found in the place of something else. -/
inductive Found where
  | null
  | bool (b : Bool)
  | integer (i : Int)
  | float (x : Float)
  | string (s : String)
  | array
  | object

/-- Why a well-formed text does not hold what is expected. -/
inductive Mismatch where
  | wrongType (found : Found) (expected : String)
  | wrongValue (found : Found) (expected : String)
  | wrongLength (length : Nat) (expected : String)
  | unknownWord (word : String) (allowed : List String)
  | missingField (name : String)
  | repeatedField (name : String)

/-- What a value is when something else was expected. -/
def Json.found : Json → Found
  | null => .null
  | bool b => .bool b
  | unsigned n => .integer n
  | signed i => .integer i
  | float x => .float x
  | string s => .string s
  | array _ => .array
  | object _ => .object

/-- How a format names what it holds. -/
structure Wording where
  null : String
  numberStyle : NumberStyle

namespace Found

/-- Names what was found; values are shown, arrays and objects only named. -/
def describe (wording : Wording) : Found → String
  | null => wording.null
  | bool true => "boolean `true`"
  | bool false => "boolean `false`"
  | integer i => "integer `" ++ toString i ++ "`"
  | float x => "floating point `" ++ wording.numberStyle.write x ++ "`"
  | string s => "string " ++ Text.quote s
  | array => "sequence"
  | object => "map"

end Found

namespace Mismatch

/-- Names the words that are allowed in a place. -/
def describeAllowed : List String → String
  | [] => "there are no variants"
  | [a] => "expected `" ++ a ++ "`"
  | [a, b] => "expected `" ++ a ++ "` or `" ++ b ++ "`"
  | words => "expected one of " ++ ", ".intercalate (words.map fun word => "`" ++ word ++ "`")

/-- The wording of a mismatch. -/
def message (wording : Wording) : Mismatch → String
  | wrongType found expected =>
    "invalid type: " ++ found.describe wording ++ ", expected " ++ expected
  | wrongValue found expected =>
    "invalid value: " ++ found.describe wording ++ ", expected " ++ expected
  | wrongLength length expected =>
    "invalid length " ++ toString length ++ ", expected " ++ expected
  | unknownWord word allowed => "unknown variant `" ++ word ++ "`, " ++ describeAllowed allowed
  | missingField name => "missing field `" ++ name ++ "`"
  | repeatedField name => "duplicate field `" ++ name ++ "`"

end Mismatch

/-- Takes the value of a field, which must not have one yet: a repeated field is reported before
its value is looked at. -/
def takeOnce {ε α : Type} (repeated : ε) (seen : Option α) (value : Except ε α) :
    Except ε (Option α) :=
  match seen with
  | some _ => .error repeated
  | none => value.map some

end ClusterGraph
