import ClusterGraph.Json.Mismatch

/-!
# JSON5 texts as data

A JSON5 text is read in two steps. First its grammar gives a `Json5`, in which strings and numbers
are still as written. Then the parts that are asked for get their value, from left to right; that
step can fail with a `Json5.Fault`.
-/

namespace ClusterGraph

/-- A part of a JSON5 string or name. -/
inductive Json5.Part where
  /-- A character that stands for itself. -/
  | literal (c : Char)
  /-- A character behind a backslash. -/
  | escaped (c : Char)
  /-- A zero behind a backslash. -/
  | zero
  /-- A code point written with two digits in base sixteen. -/
  | byte (n : Nat)
  /-- A unit of sixteen bits written with four digits in base sixteen. -/
  | unit (n : Nat)
deriving DecidableEq

/-- A JSON5 text by its grammar. -/
inductive Json5 where
  | null
  | bool (b : Bool)
  /-- A string or a name, by its parts. -/
  | string (parts : List Json5.Part)
  /-- A number as written. -/
  | number (text : List Char)
  | array (items : List Json5)
  /-- The entries in the order of the text. -/
  | object (fields : List (List Json5.Part × Json5))

namespace Json5

/-- Why a part of a well-formed text has no value. -/
inductive Fault where
  | mismatch (cause : Mismatch)
  /-- The second unit of a surrogate pair without the first. -/
  | unexpectedTrail
  /-- The first unit of a surrogate pair at the end of a string. -/
  | missingTrail
  /-- The first unit of a surrogate pair before something else than the second. -/
  | notATrail
  /-- Digits in base sixteen that are none, or too many. -/
  | hex
  /-- A whole number that does not fit into 64 bits. -/
  | integer
  | number
  /-- A number that is not finite. -/
  | numberTooLarge
  /-- A word was expected, in an object with nothing in it. -/
  | emptyObject
  /-- A word was expected, alone or as the key of an object. -/
  | notAWord

/-- In messages, numbers are written out in full, and `null` is a unit. -/
def wording : Wording where
  null := "unit value"
  numberStyle := ⟨none, "NaN", "inf"⟩

/-- The wording of a fault. -/
def Fault.message : Fault → String
  | mismatch cause => cause.message wording
  | unexpectedTrail => "unexpected unicode trail surrogate"
  | missingTrail => "missing unicode trail surrogate"
  | notATrail => "expecting unicode trail surrogate"
  | hex => "error parsing hex"
  | integer => "error parsing integer"
  | number => "error parsing number"
  | numberTooLarge => "error parsing number: too large"
  | emptyObject => "expected a nonempty object"
  | notAWord => "expected a string or an object"

/-- Why a text could not be read. -/
inductive Error where
  /-- The text breaks the grammar. -/
  | grammar
  | fault (cause : Fault)

end Json5

end ClusterGraph
