/-!
# Generated names

Anonymous subgraphs and parallel edges get a name of a stem and a number. `freeNumber` finds the
least number above a given one whose name is free.
-/

namespace ClusterGraph.Build

/-- A stem with a number behind it. -/
def numbered (stem : String) (n : Nat) : String := stem ++ String.ofList (Nat.toDigits 10 n)

/-- Different numbers make different names. -/
theorem numbered_inj {stem : String} {m n : Nat} : numbered stem m = numbered stem n ↔ m = n := by
  constructor
  · intro h
    have hdigits : Nat.toDigits 10 m = Nat.toDigits 10 n := by
      have := congrArg String.toList h
      simpa [numbered, String.toList_append] using this
    simpa using congrArg (fun digits => Nat.ofDigitChars 10 digits 0) hdigits
  · rintro rfl
    rfl

/-- The least number above `n` that is not taken. Of `fuel + 1` numbers the last one is not
tried: where at most `fuel` numbers are taken in all, one of them is free. -/
def freeNumber (taken : Nat → Bool) : (fuel : Nat) → (n : Nat) → Nat
  | 0, n => n + 1
  | fuel + 1, n => if taken (n + 1) then freeNumber taken fuel (n + 1) else n + 1

theorem lt_freeNumber (taken : Nat → Bool) (fuel n : Nat) : n < freeNumber taken fuel n := by
  induction fuel generalizing n with
  | zero => exact Nat.lt_succ_self n
  | succ fuel ih =>
    unfold freeNumber
    split
    · exact Nat.lt_trans (Nat.lt_succ_self n) (ih (n + 1))
    · exact Nat.lt_succ_self n

/-- The numbers that are passed over are taken. -/
theorem taken_of_lt_freeNumber {taken : Nat → Bool} {fuel n k : Nat} (hn : n < k)
    (hk : k < freeNumber taken fuel n) : taken k = true := by
  induction fuel generalizing n with
  | zero =>
    simp only [freeNumber] at hk
    omega
  | succ fuel ih =>
    unfold freeNumber at hk
    split at hk
    · next h =>
      by_cases hkn : k = n + 1
      · exact hkn ▸ h
      · exact ih (by omega) hk
    · omega

end ClusterGraph.Build
