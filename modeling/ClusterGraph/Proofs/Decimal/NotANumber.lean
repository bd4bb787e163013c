import ClusterGraph.Decimal.Literal

/-!
# Which bits are a number

A pattern of bits is not a number where all bits of the exponent are set and one of the mantissa,
and these are the magnitudes above that of infinity (`isNaN_ofBits_iff`). No decimal is rounded to
one of them, so every decimal literal, however large its exponent is, has a number as its value
(`isNaN_literalValue`).
-/

namespace ClusterGraph

section Bits

open Float.Model (Format UnpackedFloat)
open Float.Model.UnpackedFloat

/-- Where the bits are those of not-a-number. -/
theorem isNaN_unpack_iff {spec : Format} {b : BitVec spec.numBits} :
    (unpack spec b).isNaN = true ↔ unpackExponent b = -1#_ ∧ unpackMantissa b ≠ 0#_ := by
  by_cases hexponent : unpackExponent b = -1#_
  · by_cases hmantissa : unpackMantissa b = 0#_
    · have hinfinity : (unpack spec b).isNaN = false :=
        congrArg isNaN ((if_pos hexponent).trans (if_pos hmantissa))
      rw [hinfinity]
      exact iff_of_false Bool.false_ne_true fun h => h.2 hmantissa
    · have hnan : (unpack spec b).isNaN = true :=
        congrArg isNaN ((if_pos hexponent).trans (if_neg hmantissa))
      exact iff_of_true hnan ⟨hexponent, hmantissa⟩
  · have hfinite : (unpack spec b).isNaN = false := by
      refine (congrArg isNaN (if_neg hexponent)).trans ?_
      by_cases hsmall : unpackExponent b = 0#_
      · refine (congrArg isNaN (if_pos hsmall)).trans ?_
        by_cases hmantissa : unpackMantissa b = 0#_
        · exact congrArg isNaN (dif_pos hmantissa)
        · exact congrArg isNaN (dif_neg hmantissa)
      · exact congrArg isNaN (if_neg hsmall)
    rw [hfinite]
    exact iff_of_false Bool.false_ne_true fun h => hexponent h.1

/-- Packing keeps what is a number and what is not. -/
theorem isNaN_unpack_pack (f : UnpackedFloat) :
    (unpack Format.binary64 (pack Format.binary64 f)).isNaN = f.isNaN := by
  have hnumber {sign : Sign} {exponent : BitVec 11} {mantissa : BitVec 52}
      (h : exponent = -1#11 → mantissa = 0#52) :
      (unpack Format.binary64 (packComponents Format.binary64 sign exponent mantissa)).isNaN =
        false := by
    rw [← Bool.not_eq_true, isNaN_unpack_iff, unpackExponent_packComponents,
      unpackMantissa_packComponents]
    exact fun ⟨hexponent, hmantissa⟩ => hmantissa (h hexponent)
  fun_cases pack with
  | case1 => decide
  | case2 => exact hnumber fun _ => rfl
  | case3 => exact hnumber fun _ => rfl
  | case4 => exact hnumber fun _ => rfl
  | case5 sign m e hm actualMantissaBits biasedExponent hfits =>
    -- an exponent with all its bits set would have been packed as infinity
    refine hnumber fun hexponent => absurd (congrArg BitVec.toNat hexponent) ?_
    have hbound : biasedExponent + 1 < 2 ^ 11 := Nat.lt_of_not_le hfits
    rw [BitVec.toNat_ofNat, Nat.mod_eq_of_lt (by omega)]
    exact fun h : biasedExponent = 2047 => by omega
  | case6 => exact hnumber fun h => absurd h (by decide)

/-- A pattern is not a number exactly if its magnitude lies above that of infinity. -/
theorem isNaN_ofBits_iff (b : UInt64) :
    (Float.ofBits b).isNaN = true ↔ infinityBits < b.toNat % 1 <<< 63 := by
  have hmodel : (Float.ofBits b).isNaN = (unpack Format.binary64 b.toBitVec).isNaN :=
    isNaN_unpack_pack (unpack Format.binary64 b.toBitVec)
  have hexponent : (@unpackExponent Format.binary64 b.toBitVec).toNat =
      b.toNat / 2 ^ 52 % 2 ^ 11 := by
    rw [← Nat.shiftRight_eq_div_pow]
    rfl
  have hmantissa : (@unpackMantissa Format.binary64 b.toBitVec).toNat = b.toNat % 2 ^ 52 := by
    rfl
  rw [hmodel, isNaN_unpack_iff, ← BitVec.toNat_inj, hexponent, ne_eq, ← BitVec.toNat_inj, hmantissa]
  have hall : (-1#11).toNat = 2 ^ 11 - 1 := by rfl
  have hnone : (0#52).toNat = 0 := by rfl
  have hsign : (1 <<< 63 : Nat) = 2 ^ 63 := by rfl
  rw [hall, hnone, hsign, infinityBits]
  omega

end Bits

/-! ### Magnitudes -/

/-- The magnitudes up to infinity are those of numbers. -/
theorem isNaN_signedFloat (negative : Bool) {magnitude : Nat} (h : magnitude ≤ infinityBits) :
    (signedFloat negative magnitude).isNaN = false := by
  have hsmall : magnitude < 2 ^ 63 := Nat.lt_of_le_of_lt h (by decide)
  have hmagnitude :
      (UInt64.ofNat (if negative then magnitude + 1 <<< 63 else magnitude)).toNat % 1 <<< 63 =
        magnitude := by
    have hsign : (1 <<< 63 : Nat) = 2 ^ 63 := by rfl
    rw [UInt64.toNat_ofNat', hsign]
    split <;> omega
  rw [← Bool.not_eq_true, signedFloat, isNaN_ofBits_iff, hmagnitude]
  exact Nat.not_lt_of_le h

theorem nearestBits_le (num den : Nat) : nearestBits num den ≤ infinityBits := by
  rw [nearestBits]
  split
  · exact Nat.zero_le _
  · exact Nat.min_le_right _ _

/-- No decimal is nearest to a pattern above infinity. -/
theorem Decimal.nearestBits_le_infinityBits (d : Decimal) : d.nearestBits ≤ infinityBits := by
  rw [Decimal.nearestBits]
  split
  · exact Nat.zero_le _
  · split
    · exact Nat.le_refl _
    · split <;> exact nearestBits_le _ _

/-- Decimal literals have numbers as their values. -/
theorem isNaN_literalValue (cs : List Char) : (literalValue cs).isNaN = false :=
  isNaN_signedFloat _ (Decimal.nearestBits_le_infinityBits _)

theorem isNaN_nan : nan.isNaN = true := by
  rw [nan, isNaN_ofBits_iff]
  decide

/-- Infinity has the sign that it is given. -/
theorem signedFloat_infinityBits (negative : Bool) :
    (signedFloat negative infinityBits).isInf = true ∧
      (signedFloat negative infinityBits < 0 ↔ negative = true) := by
  cases negative <;> decide

end ClusterGraph
