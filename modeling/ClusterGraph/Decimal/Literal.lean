import ClusterGraph.Decimal.Nearest

/-!
# Decimal literals

The value of a decimal literal: an optional sign, digits with an optional point among or around
them, and an optional exponent. The functions here are total; what counts as a literal is decided
by the texts that hold one.
-/

namespace ClusterGraph

/-- The number that ASCII digits spell in base ten. -/
def digitsValue (digits : List Char) : Nat :=
  digits.foldl (fun n c => 10 * n + (c.toNat - '0'.toNat)) 0

/-- Splits a leading sign off: whether it is a minus, and what follows it. -/
def splitSign : List Char → Bool × List Char
  | '-' :: rest => (true, rest)
  | '+' :: rest => (false, rest)
  | cs => (false, cs)

/-- The integer that an optional sign and digits spell. -/
def signedValue (cs : List Char) : Int :=
  let (negative, digits) := splitSign cs
  if negative then -(digitsValue digits : Int) else digitsValue digits

/-- Splits the digits after a leading point off. -/
def splitFraction : List Char → List Char × List Char
  | '.' :: rest => (rest.takeWhile Char.isDigit, rest.dropWhile Char.isDigit)
  | cs => ([], cs)

/-- The binary64 number nearest to a decimal literal. -/
def literalValue (cs : List Char) : Float :=
  let (negative, cs) := splitSign cs
  let whole := cs.takeWhile Char.isDigit
  let (fraction, rest) := splitFraction (cs.dropWhile Char.isDigit)
  let exponent := signedValue rest.tail
  Decimal.toFloat ⟨digitsValue (whole ++ fraction), exponent - fraction.length⟩ negative

end ClusterGraph
