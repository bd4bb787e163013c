import ClusterGraph.Decimal.Shortest

/-!
# Writing numbers

A `NumberStyle` record fixes how a binary64 number is written once its shortest digits are chosen:
which exponents are written out in full, the sign of a written exponent, and the words for
infinities and not-a-number. A whole number is always written with a point and a zero.
-/

namespace ClusterGraph

/-- How numbers are written. -/
structure NumberStyle where
  /-- The exponents of the leading digit, from the first to the last, that are written out in
  full; all exponents when there are no bounds. -/
  plainRange : Option (Int × Int)
  /-- The text of not-a-number. -/
  nan : String
  /-- The text of positive infinity. -/
  infinity : String

namespace NumberStyle

/-- The decimal digits of a natural. -/
def digitsOf (n : Nat) : String := String.ofList (Nat.toDigits 10 n)

/-- `count` zeros. -/
def zeros (count : Nat) : String := String.ofList (List.replicate count '0')

/-- A decimal without exponent: the point stands inside, before or after the digits. -/
def plain (d : Decimal) : String :=
  let digits := Nat.toDigits 10 d.digits
  if 0 ≤ d.exponent then digitsOf d.digits ++ zeros d.exponent.toNat ++ ".0"
  else
    let places := (-d.exponent).toNat
    if places < digits.length then
      String.ofList (digits.take (digits.length - places)) ++ "." ++
        String.ofList (digits.drop (digits.length - places))
    else "0." ++ zeros (places - digits.length) ++ String.ofList digits

/-- A decimal with exponent: one digit before the point, and a signed exponent. -/
def scientific (d : Decimal) : String :=
  let digits := Nat.toDigits 10 d.digits
  let exponent := d.exponent + digits.length - 1
  let mantissa := match digits with
    | [] => ""
    | [c] => String.singleton c
    | c :: rest => String.singleton c ++ "." ++ String.ofList rest
  let sign := if exponent < 0 then "-" else "+"
  mantissa ++ "e" ++ sign ++ digitsOf exponent.natAbs

/-- Writes a magnitude, given by its bits, without a sign. -/
def magnitude (style : NumberStyle) (bits : Nat) : String :=
  if bits = 0 then "0.0"
  else if bits = infinityBits then style.infinity
  else
    let d := shortest bits
    let leading := d.exponent + digitCount d.digits - 1
    match style.plainRange with
    | none => plain d
    | some (first, last) => if first ≤ leading ∧ leading ≤ last then plain d else scientific d

/-- Writes a number in this style. -/
def write (style : NumberStyle) (x : Float) : String :=
  let bits := x.toBits.toNat
  let size := bits % (1 <<< 63)
  if infinityBits < size then style.nan
  else if bits < 1 <<< 63 then style.magnitude size
  else "-" ++ style.magnitude size

end NumberStyle

end ClusterGraph
