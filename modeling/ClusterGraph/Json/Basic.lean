/-!
# JSON values

A value of a JSON text as plain data. Objects keep their entries in the order of the text,
repeated keys included. Whole numbers are told apart by how they were read, since messages and
tags depend on it.
-/

namespace ClusterGraph

/-- A JSON value. -/
inductive Json where
  | null
  | bool (b : Bool)
  /-- A whole number read as one without sign. -/
  | unsigned (n : Nat)
  /-- A whole number read as one with a sign. -/
  | signed (i : Int)
  | float (x : Float)
  | string (s : String)
  | array (items : List Json)
  /-- The entries in the order of the text. -/
  | object (fields : List (String × Json))
deriving Inhabited

namespace Json

/-- The opening bracket of an object. -/
def openBrace : Char := Char.ofNat 0x7B

/-- The closing bracket of an object. -/
def closeBrace : Char := Char.ofNat 0x7D

/-- An object with one entry for each pair of texts. -/
def ofTexts (pairs : List (String × String)) : Json :=
  object (pairs.map fun pair => (pair.1, string pair.2))

/-- An array of texts. -/
def ofStrings (texts : List String) : Json := array (texts.map string)

/-- A text, or null when there is none. -/
def ofString? : Option String → Json
  | some s => string s
  | none => null

end Json

end ClusterGraph
