import ClusterGraph.Decimal.Literal
import ClusterGraph.Label
import ClusterGraph.Text.DecimalDigit
import ClusterGraph.Text.WhiteSpace

/-!
# Packed layout texts

Graph layout programs write placements back as packed texts: a position `x,y`, a spline of points
behind a two-character marker, a bounding box `x,y,width,height`, a size in inches. Every decoder
here is total: what is malformed or missing decodes to not-a-number. In these texts y grows
upward, so every decoded y is negated.

`numberHead` finds the number that a text starts with, `numberValue` is its value, and
`leadingNumber` reads a text that way behind its leading white space.
-/

namespace ClusterGraph.Layout

/-! ### The number at the head of a text -/

/-- The word for infinity. -/
def infinityWord : List Char := "Infinity".toList

/-- The leading decimal digits, of any script. -/
def digitsHead (cs : List Char) : List Char := cs.takeWhile Text.isDecimalDigit

/-- The leading sign, if there is one. -/
def signHead : List Char → List Char
  | '+' :: _ => ['+']
  | '-' :: _ => ['-']
  | _ => []

/-- The leading mantissa: digits with an optional point and optional digits after it, or a point
and digits. Empty when there is none. -/
def mantissaHead (cs : List Char) : List Char :=
  let whole := digitsHead cs
  match cs.drop whole.length with
  | '.' :: rest =>
    let fraction := digitsHead rest
    if whole.isEmpty && fraction.isEmpty then [] else whole ++ '.' :: fraction
  | _ => whole

/-- The leading exponent: a letter `e`, an optional sign, and digits. Empty when there is none. -/
def exponentHead : List Char → List Char
  | [] => []
  | mark :: rest =>
    if mark = 'e' ∨ mark = 'E' then
      let sign := signHead rest
      let digits := digitsHead (rest.drop sign.length)
      if digits.isEmpty then [] else mark :: sign ++ digits
    else []

/-- The number that a text starts with: an optional sign, then infinity, or a mantissa and an
optional exponent. -/
def numberHead (cs : List Char) : Option (List Char) :=
  let sign := signHead cs
  let rest := cs.drop sign.length
  if infinityWord.isPrefixOf rest then some (sign ++ infinityWord)
  else
    let mantissa := mantissaHead rest
    if mantissa.isEmpty then none
    else some (sign ++ mantissa ++ exponentHead (rest.drop mantissa.length))

example : (["12.5pt", ".5e3,", "-7.", "1e+", "+Infinity", "-", ".", "e5"].map fun raw =>
    (numberHead raw.toList).map String.ofList) =
    [some "12.5", some ".5e3", some "-7.", some "1", some "+Infinity", none, none, none] := by
  decide +kernel

/-- The value of such a number. Digits that are not ASCII have none. -/
def numberValue (cs : List Char) : Float :=
  let (negative, rest) := splitSign cs
  if rest = infinityWord then signedFloat negative infinityBits
  else if cs.all fun c => c.toNat < 128 then literalValue cs
  else nan

/-- The number at the head of a text, behind white space; not-a-number when there is none. -/
def leadingNumber (raw : List Char) : Float :=
  match numberHead (raw.dropWhile Text.isWhiteSpace) with
  | some cs => numberValue cs
  | none => nan

/-! ### Packed texts -/

/-- Removes every line continuation, a backslash before a line feed. -/
def dropContinuations : List Char → List Char
  | '\\' :: '\n' :: rest => dropContinuations rest
  | c :: rest => c :: dropContinuations rest
  | [] => []

/-- The number in the `i`-th of the given pieces; not-a-number when there is no such piece. -/
def numberAt (pieces : List (List Char)) (i : Nat) : Float :=
  match pieces[i]? with
  | some piece => leadingNumber piece
  | none => nan

/-- Decodes `x,y`. -/
def point (raw : List Char) : Point :=
  let pieces := raw.splitOn ','
  ⟨numberAt pieces 0, -numberAt pieces 1⟩

/-- Decodes a spline: drops the two-character marker, and decodes a point from each piece between
single spaces, whose line continuations are removed first. -/
def spline (raw : List Char) : List Point :=
  ((raw.drop 2).splitOn ' ').map fun piece => point (dropContinuations piece)

/-- Decodes `x,y,width,height`; the height is divided by `heightDivisor`. -/
def boundingBox (raw : List Char) (heightDivisor : Float) : Geometry :=
  let pieces := raw.splitOn ','
  ⟨numberAt pieces 0, -numberAt pieces 1, numberAt pieces 2, numberAt pieces 3 / heightDivisor⟩

/-- Scales a size; a missing one scales to not-a-number. -/
def scaled (raw : Option (List Char)) (multiplier : Float) : Float :=
  (match raw with
    | some raw => leadingNumber raw
    | none => nan) * multiplier

end ClusterGraph.Layout
