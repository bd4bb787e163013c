import ClusterGraph.Decimal.Literal
import ClusterGraph.Decimal.Notation
import ClusterGraph.Json.Basic

/-!
# Writing JSON

`Json.compact` writes a value without blanks. `Json.pretty` puts every item and every entry on a
line of its own, two spaces deeper than what holds it; empty arrays and objects stay on one line.
In strings, quotes, backslashes and the controls below U+0020 are escaped and nothing else is.
Numbers without a value are written as `null`.
-/

namespace ClusterGraph.Json

/-! ### Scalars -/

/-- Numbers are written out in full from `0.00001` to below ten to the sixteenth, and with a signed
exponent outside; what is not a finite number is `null`. -/
def numberStyle : NumberStyle where
  plainRange := some (-5, 15)
  nan := "null"
  infinity := "null"

/-- The text of a number. -/
def numberText (x : Float) : String :=
  if x.isFinite then numberStyle.write x else "null"

example : (["1e15", "1e16", "1e-5", "1e-6", "-0", "0.1", "5e-324", "1e999"].map fun literal =>
    numberText (literalValue literal.toList)) =
    ["1000000000000000.0", "1e+16", "0.00001", "1e-6", "-0.0", "0.1", "5e-324", "null"] := by
  decide +kernel

/-- A digit of a number in base sixteen. -/
def hexDigit (n : Nat) : Char := Nat.digitChar n

/-- The form of one character inside a string. -/
def escapeChar (c : Char) : List Char :=
  if c = '"' then ['\\', '"']
  else if c = '\\' then ['\\', '\\']
  else if c = '\n' then ['\\', 'n']
  else if c = '\r' then ['\\', 'r']
  else if c = '\t' then ['\\', 't']
  else if c.toNat = 0x08 then ['\\', 'b']
  else if c.toNat = 0x0C then ['\\', 'f']
  else if c.toNat < 0x20 then
    ['\\', 'u', '0', '0', hexDigit (c.toNat / 16), hexDigit (c.toNat % 16)]
  else [c]

/-- A string literal. -/
def stringText (s : String) : List Char := '"' :: s.toList.flatMap escapeChar ++ ['"']

example : stringText "a\"\\\n\x1f/é" = "\"a\\\"\\\\\\n\\u001f/é\"".toList := by decide +kernel

/-! ### Without blanks -/

mutual

/-- Writes a value without blanks. -/
def compact : Json → List Char
  | null => "null".toList
  | bool true => "true".toList
  | bool false => "false".toList
  | unsigned n => Nat.toDigits 10 n
  | signed i => (toString i).toList
  | float x => (numberText x).toList
  | string s => stringText s
  | array items => '[' :: compactItems items ++ [']']
  | object fields => openBrace :: compactFields fields ++ [closeBrace]

/-- Writes items with commas between them. -/
def compactItems : List Json → List Char
  | [] => []
  | [item] => compact item
  | item :: next :: rest => compact item ++ ',' :: compactItems (next :: rest)

/-- Writes entries with commas between them. -/
def compactFields : List (String × Json) → List Char
  | [] => []
  | [(key, value)] => stringText key ++ ':' :: compact value
  | (key, value) :: next :: rest =>
    stringText key ++ ':' :: compact value ++ ',' :: compactFields (next :: rest)

end

/-! ### On lines of their own -/

/-- A line feed and the indentation of a depth. -/
def newLine (depth : Nat) : List Char := '\n' :: List.replicate (2 * depth) ' '

mutual

/-- Writes a value that stands at a depth, over several lines. -/
def prettyAt (depth : Nat) : Json → List Char
  | null => "null".toList
  | bool true => "true".toList
  | bool false => "false".toList
  | unsigned n => Nat.toDigits 10 n
  | signed i => (toString i).toList
  | float x => (numberText x).toList
  | string s => stringText s
  | array [] => ['[', ']']
  | array (item :: rest) =>
    '[' :: newLine (depth + 1) ++ prettyAt (depth + 1) item ++ prettyItems (depth + 1) rest ++
      newLine depth ++ [']']
  | object [] => [openBrace, closeBrace]
  | object ((key, value) :: rest) =>
    openBrace :: newLine (depth + 1) ++ stringText key ++ ':' :: ' ' ::
      prettyAt (depth + 1) value ++ prettyFields (depth + 1) rest ++ newLine depth ++ [closeBrace]

/-- Writes further items, each behind a comma and on a line of its own. -/
def prettyItems (depth : Nat) : List Json → List Char
  | [] => []
  | item :: rest => ',' :: newLine depth ++ prettyAt depth item ++ prettyItems depth rest

/-- Writes further entries, each behind a comma and on a line of its own. -/
def prettyFields (depth : Nat) : List (String × Json) → List Char
  | [] => []
  | (key, value) :: rest =>
    ',' :: newLine depth ++ stringText key ++ ':' :: ' ' :: prettyAt depth value ++
      prettyFields depth rest

end

/-- Writes a value over several lines. -/
def pretty (value : Json) : List Char := prettyAt 0 value

/-- The text of a value, over several lines or without blanks. -/
def text (value : Json) (overLines : Bool) : String :=
  String.ofList (if overLines then value.pretty else value.compact)

end ClusterGraph.Json
