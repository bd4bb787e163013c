import ClusterGraph.Decimal.Nearest

/-!
# The shortest decimal of a binary64 number

Among the decimals that read back as a given positive finite number, `shortest` takes the ones
with the fewest digits, of those the nearest to the number, and of two equally near the even one.
For each count of digits the two neighbours of the number on the decimal grid are tried, which is
enough: if any point of a grid reads back, one of the neighbours does.
-/

namespace ClusterGraph

/-- Drops trailing zeros from the digits, at most `fuel` of them. -/
def Decimal.stripZeros : Nat → Decimal → Decimal
  | 0, d => d
  | fuel + 1, d =>
    if d.digits ≠ 0 ∧ d.digits % 10 = 0 then
      stripZeros fuel ⟨d.digits / 10, d.exponent + 1⟩
    else d

/-- The number of decimal digits of a natural; zero has one. -/
def digitCount (n : Nat) : Nat := (Nat.toDigits 10 n).length

/-- The exponent of the leading decimal digit of `num / den`, for positive `num` and `den`. -/
def decimalExponent (num den : Nat) : Int :=
  if den ≤ num then (digitCount (num / den) : Int) - 1
  else
    let k := digitCount (den / num)
    if den ≤ num * Nat.pow 10 (k - 1) then -((k : Int) - 1) else -(k : Int)

/-- A positive finite binary64 number, given by its magnitude bits, as a quotient. -/
def quotientOfBits (bits : Nat) : Nat × Nat :=
  let field := bits >>> 52
  let fraction := bits % (1 <<< 52)
  let m := if field = 0 then fraction else fraction + 1 <<< 52
  let q : Int := (max field 1 : Nat) - 1075
  if 0 ≤ q then (m <<< q.toNat, 1) else (m, 1 <<< (-q).toNat)

/-- The decimals of `n` digits that are next to `num / den` and read back as `bits`: the nearest
of them, the even one when both are equally near. -/
def shortestAt (bits num den n : Nat) : Option Decimal :=
  let exponent := decimalExponent num den - ((n : Int) - 1)
  let (num, den) :=
    if 0 ≤ exponent then (num, den * Nat.pow 10 exponent.toNat)
    else (num * Nat.pow 10 (-exponent).toNat, den)
  let below : Decimal := ⟨num / den, exponent⟩
  let above : Decimal := ⟨num / den + 1, exponent⟩
  if below.nearestBits = bits then
    if above.nearestBits = bits ∧
        (den < 2 * (num % den) ∨ (2 * (num % den) = den ∧ num / den % 2 = 1)) then some above
    else some below
  else if above.nearestBits = bits then some above
  else none

/-- The shortest decimal that reads back as the positive finite number with magnitude `bits`.
Seventeen digits always suffice. -/
def shortest (bits : Nat) : Decimal :=
  let (num, den) := quotientOfBits bits
  let found := (List.range 17).findSome? fun n => shortestAt bits num den (n + 1)
  (found.getD ⟨0, 0⟩).stripZeros 17

end ClusterGraph
