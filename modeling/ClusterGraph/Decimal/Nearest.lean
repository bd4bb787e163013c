/-!
# The nearest binary64 number

`Decimal` is a non-negative decimal number, `digits · 10 ^ exponent`. `nearestBits` rounds a
quotient of naturals to the nearest binary64 number, ties to the even one, and gives the bits of
its magnitude: read as naturals, these grow with the number, and the pattern after the largest
finite one is that of infinity. `Decimal.toFloat` reads a decimal this way and adds a sign.
-/

namespace ClusterGraph

/-- The non-negative number `digits · 10 ^ exponent`. -/
structure Decimal where
  digits : Nat
  exponent : Int
deriving DecidableEq, Inhabited

/-- The bits of infinity: every exponent bit is set, and no other. -/
def infinityBits : Nat := 0x7FF0000000000000

/-- The quotient rounded to the nearest natural, a half going to the even one. -/
def roundHalfEven (num den : Nat) : Nat :=
  let q := num / den
  let twice := 2 * (num % den)
  if den < twice ∨ (twice = den ∧ q % 2 = 1) then q + 1 else q

/-- The greatest `e` with `2 ^ e ≤ num / den`, for positive `num` and `den`. -/
def binaryExponent (num den : Nat) : Int :=
  let e : Int := (num.log2 : Int) - den.log2
  let reached := if 0 ≤ e then den <<< e.toNat ≤ num else den ≤ num <<< (-e).toNat
  if reached then e else e - 1

/-- The magnitude bits of the binary64 number nearest to `num / den`, ties to even, and those of
infinity from half a unit above the largest finite number on.

A number has 53 significant bits, and no bit below `2 ^ (-1074)`. With its last place at `2 ^ q`
and `m` units of it, the pattern is `(q + 1074) · 2 ^ 52 + m`: the leading bit of `m` and a carry
out of the rounding both step the exponent by the right amount. -/
def nearestBits (num den : Nat) : Nat :=
  if num = 0 ∨ den = 0 then 0
  else
    let q : Int := max (binaryExponent num den - 52) (-1074)
    let m := if 0 ≤ q then roundHalfEven num (den <<< q.toNat)
      else roundHalfEven (num <<< (-q).toNat) den
    min ((q + 1074).toNat <<< 52 + m) infinityBits

/-- The binary64 number with these magnitude bits and this sign. -/
def signedFloat (negative : Bool) (magnitude : Nat) : Float :=
  Float.ofBits (UInt64.ofNat (if negative then magnitude + 1 <<< 63 else magnitude))

/-- Not a number. -/
def nan : Float := Float.ofBits 0x7FF8000000000000

namespace Decimal

/-- The magnitude bits of the binary64 number nearest to a decimal. The first two cases hold for
every decimal that is too large, or too small, to be told from infinity or zero, and keep the
powers of ten small. -/
def nearestBits (d : Decimal) : Nat :=
  if d.digits = 0 ∨ d.exponent < -(400 + d.digits.log2 : Int) then 0
  else if 310 < d.exponent then infinityBits
  else if 0 ≤ d.exponent then ClusterGraph.nearestBits (d.digits * Nat.pow 10 d.exponent.toNat) 1
  else ClusterGraph.nearestBits d.digits (Nat.pow 10 (-d.exponent).toNat)

/-- The binary64 number nearest to a decimal, with a sign. -/
def toFloat (d : Decimal) (negative : Bool) : Float := signedFloat negative d.nearestBits

end Decimal

end ClusterGraph
