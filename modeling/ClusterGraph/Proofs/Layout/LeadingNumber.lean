import ClusterGraph.Layout
import ClusterGraph.Proofs.Decimal.NotANumber
import Mathlib.Data.List.TakeWhile

/-!
# The number at the head of a text

What counts as a number is a grammar (`Layout.IsNumber`): an optional sign, and then infinity, or a
mantissa with an optional exponent, in digits of any script. The scanner decides at each point by
the next characters alone, and still finds the longest number that the text starts with, if there is
one (`Layout.numberHead_eq_some`, `Layout.numberHead_eq_none`). An exponent behind a shorter
mantissa never makes a longer number, because the mantissa is then followed by a digit or a point,
and not by the mark of an exponent.

So the value of a text is that of the longest number behind its white space, and this is itself a
number exactly if no digit of it is outside ASCII (`Layout.leadingNumber_longest`).
-/

namespace ClusterGraph.Layout

open Text (isDecimalDigit isWhiteSpace)

/-! ### The grammar -/

/-- Decimal digits, of any script, at least one. -/
def IsDigits (cs : List Char) : Prop := cs ≠ [] ∧ ∀ c ∈ cs, isDecimalDigit c = true

/-- A sign, or none. -/
def IsSign (cs : List Char) : Prop := cs = [] ∨ cs = ['+'] ∨ cs = ['-']

/-- Digits with an optional point and optional digits behind it, or a point and digits. -/
inductive IsMantissa : List Char → Prop where
  | whole {digits : List Char} (h : IsDigits digits) : IsMantissa digits
  | point {digits fraction : List Char} (h : IsDigits digits)
      (hfraction : fraction = [] ∨ IsDigits fraction) : IsMantissa (digits ++ '.' :: fraction)
  | leadingPoint {fraction : List Char} (h : IsDigits fraction) : IsMantissa ('.' :: fraction)

/-- A letter `e`, an optional sign, and digits. -/
inductive IsExponent : List Char → Prop where
  | intro {mark : Char} {sign digits : List Char} (hmark : mark = 'e' ∨ mark = 'E')
      (hsign : IsSign sign) (hdigits : IsDigits digits) : IsExponent (mark :: sign ++ digits)

/-- Infinity, or a mantissa and an optional exponent. -/
inductive IsUnsigned : List Char → Prop where
  | infinity : IsUnsigned infinityWord
  | decimal {mantissa exponent : List Char} (hmantissa : IsMantissa mantissa)
      (hexponent : exponent = [] ∨ IsExponent exponent) : IsUnsigned (mantissa ++ exponent)

/-- An optional sign, and then infinity, or a mantissa and an optional exponent. -/
def IsNumber (cs : List Char) : Prop :=
  ∃ sign body, IsSign sign ∧ IsUnsigned body ∧ cs = sign ++ body

/-- Of the texts of a kind that a text starts with, this is the longest one. -/
structure IsLongest (L : List Char → Prop) (text p : List Char) : Prop where
  mem : L p
  head : p <+: text
  longest : ∀ q, L q → q <+: text → q.length ≤ p.length

/-! ### The characters of a number -/

theorem lt_128_of_all {cs : List Char} (h : (cs.all fun c => c.toNat < 128) = true) :
    ∀ c ∈ cs, c.toNat < 128 :=
  fun c hc => of_decide_eq_true (List.all_eq_true.1 h c hc)

/-- Signs are ASCII. -/
theorem IsSign.lt_128 {sign : List Char} (h : IsSign sign) : ∀ c ∈ sign, c.toNat < 128 := by
  refine lt_128_of_all ?_
  rcases h with rfl | rfl | rfl <;> rfl

/-- Digits that may be missing are digits. -/
theorem isDecimalDigit_of_optional {digits : List Char} (h : digits = [] ∨ IsDigits digits) :
    ∀ c ∈ digits, isDecimalDigit c = true := by
  rcases h with rfl | h
  · exact nofun
  · exact h.2

/-- A mantissa holds digits and a point, and nothing else. -/
theorem IsMantissa.digit_or_point {cs : List Char} (h : IsMantissa cs) :
    ∀ c ∈ cs, isDecimalDigit c = true ∨ c = '.' := by
  intro c hc
  cases h with
  | whole h => exact .inl (h.2 c hc)
  | point h hfraction =>
    rcases List.mem_append.1 hc with hc | hc
    · exact .inl (h.2 c hc)
    · rcases List.mem_cons.1 hc with rfl | hc
      · exact .inr rfl
      · exact .inl (isDecimalDigit_of_optional hfraction c hc)
  | leadingPoint h =>
    rcases List.mem_cons.1 hc with rfl | hc
    · exact .inr rfl
    · exact .inl (h.2 c hc)

/-- A mantissa is not empty. -/
theorem IsMantissa.ne_nil {cs : List Char} (h : IsMantissa cs) : cs ≠ [] := by
  cases h with
  | whole h => exact h.1
  | point h => exact List.append_ne_nil_of_left_ne_nil h.1 _
  | leadingPoint h => exact List.cons_ne_nil _ _

/-- An exponent holds digits, its mark and a sign, and nothing else. -/
theorem IsExponent.digit_or_mark {cs : List Char} (h : IsExponent cs) :
    ∀ c ∈ cs, isDecimalDigit c = true ∨ c ∈ ['e', 'E', '+', '-'] := by
  intro c hc
  cases h with
  | @intro mark sign digits hmark hsign hdigits =>
    have hsigns : ∀ c ∈ mark :: sign, c ∈ ['e', 'E', '+', '-'] := by
      rcases hmark with rfl | rfl <;> rcases hsign with rfl | rfl | rfl <;> simp
    exact (List.mem_append.1 hc).symm.imp (hdigits.2 c) (hsigns c)

/-- A mantissa with an optional exponent holds digits, a point, marks and signs. -/
theorem digit_or_mark_of_mem {mantissa exponent : List Char} (hmantissa : IsMantissa mantissa)
    (hexponent : exponent = [] ∨ IsExponent exponent) :
    ∀ c ∈ mantissa ++ exponent, isDecimalDigit c = true ∨ c ∈ ['.', 'e', 'E', '+', '-'] := by
  intro c hc
  rcases List.mem_append.1 hc with hc | hc
  · refine (hmantissa.digit_or_point c hc).imp_right fun h => ?_
    exact h ▸ List.mem_cons_self
  · rcases hexponent with rfl | hexponent
    · cases hc
    · exact (hexponent.digit_or_mark c hc).imp_right (List.mem_cons_of_mem _)

/-- Digits are not white space. -/
theorem isWhiteSpace_of_isDecimalDigit {c : Char} (h : isDecimalDigit c = true) :
    isWhiteSpace c = false := by
  have hapart : ∀ digits ∈ (48, 57) :: Text.decimalDigitRanges, ∀ blanks ∈ Text.whiteSpaceRanges,
      digits.2 < blanks.1 ∨ blanks.2 < digits.1 := by decide +kernel
  have hdigit : Text.Ranges.contains ((48, 57) :: Text.decimalDigitRanges) c = true := by
    simpa [Text.Ranges.contains, isDecimalDigit, Char.isDigit_iff_toNat] using h
  rw [← Bool.not_eq_true, isWhiteSpace, Text.Ranges.contains_iff]
  rintro ⟨blanks, hblanks, hle, hge⟩
  obtain ⟨digits, hdigits, hle', hge'⟩ := Text.Ranges.contains_iff.1 hdigit
  have := hapart digits hdigits blanks hblanks
  omega

/-- What stands behind the sign does not begin with a sign. -/
theorem IsUnsigned.exists_cons {cs : List Char} (h : IsUnsigned cs) :
    ∃ c rest, cs = c :: rest ∧ c ≠ '+' ∧ c ≠ '-' ∧ isWhiteSpace c = false := by
  cases h with
  | infinity => exact ⟨'I', "nfinity".toList, by decide, by decide, by decide, by decide⟩
  | @decimal mantissa exponent hmantissa =>
    obtain ⟨c, rest, rfl⟩ := List.exists_cons_of_ne_nil hmantissa.ne_nil
    refine ⟨c, rest ++ exponent, rfl, ?_⟩
    rcases hmantissa.digit_or_point c List.mem_cons_self with hc | rfl
    · refine ⟨?_, ?_, isWhiteSpace_of_isDecimalDigit hc⟩
      · rintro rfl
        exact absurd hc (by decide)
      · rintro rfl
        exact absurd hc (by decide)
    · decide

/-- A number does not begin with white space. -/
theorem IsNumber.dropWhile_eq {cs : List Char} (h : IsNumber cs) :
    cs.dropWhile isWhiteSpace = cs := by
  obtain ⟨sign, body, hsign, hbody, rfl⟩ := h
  obtain ⟨c, rest, rfl, -, -, hc⟩ := hbody.exists_cons
  rcases hsign with rfl | rfl | rfl
  · exact List.dropWhile_cons_of_neg (Bool.eq_false_iff.1 hc)
  · exact List.dropWhile_cons_of_neg (by decide)
  · exact List.dropWhile_cons_of_neg (by decide)

/-! ### Signs and digits -/

/-- What comes behind a part of a text continues it. -/
theorem append_isPrefix {xs ys cs : List Char} (hxs : xs <+: cs) (hys : ys <+: cs.drop xs.length) :
    xs ++ ys <+: cs := by
  obtain ⟨rest, rfl⟩ := hxs
  rw [List.drop_left] at hys
  exact (List.prefix_append_right_inj xs).2 hys

/-- What is taken for a sign is one. -/
theorem isSign_signHead (cs : List Char) : IsSign (signHead cs) := by
  fun_cases signHead cs with
  | case1 => exact .inr (.inl rfl)
  | case2 => exact .inr (.inr rfl)
  | case3 => exact .inl rfl

/-- A text starts with what is taken for its sign. -/
theorem signHead_isPrefix (cs : List Char) : signHead cs <+: cs := by
  fun_cases signHead cs with
  | case1 rest => exact ⟨rest, rfl⟩
  | case2 rest => exact ⟨rest, rfl⟩
  | case3 => exact List.nil_prefix

/-- The sign before a character that is none is found. -/
theorem signHead_append {sign : List Char} (h : IsSign sign) {c : Char} (hplus : c ≠ '+')
    (hminus : c ≠ '-') (cs : List Char) : signHead (sign ++ c :: cs) = sign := by
  rcases h with rfl | rfl | rfl
  · rw [List.nil_append, signHead]
    · exact fun _ heq => hplus (List.cons_eq_cons.1 heq).1
    · exact fun _ heq => hminus (List.cons_eq_cons.1 heq).1
  · rfl
  · rfl

/-- A text starts with its leading digits. -/
theorem digitsHead_isPrefix (cs : List Char) : digitsHead cs <+: cs := List.takeWhile_prefix _

/-- The leading digits are digits, if there are any. -/
theorem isDigits_digitsHead (cs : List Char) : digitsHead cs = [] ∨ IsDigits (digitsHead cs) := by
  by_cases hnil : digitsHead cs = []
  · exact .inl hnil
  · exact .inr ⟨hnil, fun _ => List.mem_takeWhile_imp⟩

/-- Leading digits go on behind digits. -/
theorem digitsHead_append {digits : List Char} (h : ∀ c ∈ digits, isDecimalDigit c = true)
    (cs : List Char) : digitsHead (digits ++ cs) = digits ++ digitsHead cs :=
  List.takeWhile_append_of_pos h

/-- Digits start with no sign. -/
theorem IsDigits.sign_not_head {digits : List Char} (h : IsDigits digits) :
    ∃ c rest, digits = c :: rest ∧ c ≠ '+' ∧ c ≠ '-' := by
  obtain ⟨c, rest, heq, hplus, hminus, -⟩ :=
    (IsUnsigned.decimal (.whole h) (.inl rfl)).exists_cons
  exact ⟨c, rest, (List.append_nil _).symm.trans heq, hplus, hminus⟩

/-! ### Mantissas -/

/-- Digits before a point, and those behind it, are the mantissa. -/
theorem mantissaHead_append_point {digits : List Char}
    (h : ∀ c ∈ digits, isDecimalDigit c = true) (cs : List Char) :
    mantissaHead (digits ++ '.' :: cs) =
      if digits.isEmpty && (digitsHead cs).isEmpty then [] else digits ++ '.' :: digitsHead cs := by
  have hwhole : digitsHead (digits ++ '.' :: cs) = digits := by
    rw [digitsHead_append h]
    exact List.append_nil _
  rw [mantissaHead, hwhole]
  dsimp only
  rw [List.drop_left]
  rfl

/-- What is found is a mantissa, or nothing, and the text starts with it. -/
theorem mantissaHead_spec (cs : List Char) :
    mantissaHead cs <+: cs ∧ (mantissaHead cs = [] ∨ IsMantissa (mantissaHead cs)) := by
  rw [mantissaHead]
  dsimp only
  split
  · next rest hrest =>
    have hpoint : digitsHead cs ++ '.' :: digitsHead rest <+: cs := by
      refine append_isPrefix (digitsHead_isPrefix cs) ?_
      rw [hrest, List.prefix_cons_inj]
      exact digitsHead_isPrefix rest
    split
    · exact ⟨List.nil_prefix, .inl rfl⟩
    · next hempty =>
      refine ⟨hpoint, .inr ?_⟩
      rcases isDigits_digitsHead cs with hwhole | hwhole
      · rcases isDigits_digitsHead rest with hfraction | hfraction
        · simp [hwhole, hfraction] at hempty
        · rw [hwhole]
          exact .leadingPoint hfraction
      · exact .point hwhole (isDigits_digitsHead rest)
  · exact ⟨digitsHead_isPrefix cs, (isDigits_digitsHead cs).imp_right .whole⟩

/-- A mantissa has all of the leading digits. -/
theorem length_digitsHead_le (cs : List Char) :
    (digitsHead cs).length ≤ (mantissaHead cs).length := by
  rw [mantissaHead]
  dsimp only
  split
  · split
    · next hempty =>
      rw [List.isEmpty_iff.1 (Bool.and_eq_true_iff.1 hempty).1]
    · rw [List.length_append]
      exact Nat.le_add_right _ _
  · exact Nat.le_refl _

/-- No mantissa at the head of a text is longer than the one that is found. -/
theorem IsMantissa.length_le {mantissa cs : List Char} (h : IsMantissa mantissa)
    (hhead : mantissa <+: cs) : mantissa.length ≤ (mantissaHead cs).length := by
  obtain ⟨rest, rfl⟩ := hhead
  cases h with
  | whole h =>
    refine Nat.le_trans ?_ (length_digitsHead_le _)
    rw [digitsHead_append h.2, List.length_append]
    exact Nat.le_add_right _ _
  | @point digits fraction h hfraction =>
    have hdigits := isDecimalDigit_of_optional hfraction
    rw [List.append_assoc, List.cons_append, mantissaHead_append_point h.2,
      digitsHead_append hdigits, if_neg (by simp [h.1])]
    simp only [List.length_append, List.length_cons]
    omega
  | @leadingPoint fraction h =>
    have hpoint := @mantissaHead_append_point [] nofun (fraction ++ rest)
    rw [digitsHead_append h.2, if_neg (by simp [h.1])] at hpoint
    rw [List.cons_append]
    simp only [List.nil_append] at hpoint
    rw [hpoint, List.length_cons, List.length_cons, List.length_append]
    omega

/-! ### Exponents -/

/-- What is found is an exponent, or nothing, and the text starts with it. -/
theorem exponentHead_spec (cs : List Char) :
    exponentHead cs <+: cs ∧ (exponentHead cs = [] ∨ IsExponent (exponentHead cs)) := by
  cases cs with
  | nil => exact ⟨List.nil_prefix, .inl rfl⟩
  | cons mark rest =>
    rw [exponentHead]
    dsimp only
    split
    · next hmark =>
      split
      · exact ⟨List.nil_prefix, .inl rfl⟩
      · next hempty =>
        have hdigits := (isDigits_digitsHead (rest.drop (signHead rest).length)).resolve_left
          fun hnil => hempty (List.isEmpty_iff.2 hnil)
        refine ⟨?_, .inr (.intro hmark (isSign_signHead rest) hdigits)⟩
        rw [List.cons_append, List.prefix_cons_inj]
        exact append_isPrefix (signHead_isPrefix rest) (digitsHead_isPrefix _)
    · exact ⟨List.nil_prefix, .inl rfl⟩

/-- Behind an exponent only further digits are found. -/
theorem IsExponent.exponentHead_append {exponent : List Char} (h : IsExponent exponent)
    (cs : List Char) : exponentHead (exponent ++ cs) = exponent ++ digitsHead cs := by
  cases h with
  | @intro mark sign digits hmark hsign hdigits =>
    obtain ⟨c, rest, rfl, hplus, hminus⟩ := hdigits.sign_not_head
    have hsignHead : signHead (sign ++ (c :: rest ++ cs)) = sign :=
      signHead_append hsign hplus hminus _
    have hfound : digitsHead (c :: rest ++ cs) = c :: rest ++ digitsHead cs :=
      digitsHead_append hdigits.2 cs
    rw [List.append_assoc, List.cons_append, exponentHead, if_pos hmark]
    dsimp only
    rw [hsignHead, List.drop_left, hfound, if_neg (by simp)]
    simp only [List.cons_append, List.append_assoc]

/-! ### Numbers -/

/-- The longest number without a sign that a text starts with, as the scanner finds it. -/
def unsignedHead (cs : List Char) : Option (List Char) :=
  if infinityWord.isPrefixOf cs then some infinityWord
  else if (mantissaHead cs).isEmpty then none
  else some (mantissaHead cs ++ exponentHead (cs.drop (mantissaHead cs).length))

/-- A number is found behind the sign. -/
theorem numberHead_eq (cs : List Char) : numberHead cs =
    (unsignedHead (cs.drop (signHead cs).length)).map (signHead cs ++ ·) := by
  rw [numberHead, unsignedHead]
  dsimp only
  split
  · rfl
  · split
    · rfl
    · rw [List.append_assoc]
      rfl

/-- A text that starts with infinity starts with no mantissa. -/
theorem not_isMantissa_of_infinity {mantissa cs : List Char} (hmantissa : IsMantissa mantissa)
    (hhead : mantissa <+: cs) : ¬ infinityWord <+: cs := by
  intro hinfinity
  obtain ⟨c, rest, rfl⟩ := List.exists_cons_of_ne_nil hmantissa.ne_nil
  obtain ⟨xs, rfl⟩ := hhead
  obtain ⟨ys, hys⟩ := hinfinity
  have hc : 'I' = c := (List.cons_eq_cons.1 hys).1
  subst hc
  exact absurd (hmantissa.digit_or_point 'I' List.mem_cons_self) (by decide)

/-- Nothing is found only where no number without a sign can start. -/
theorem unsignedHead_eq_none {cs : List Char} (h : unsignedHead cs = none) {q : List Char}
    (hq : IsUnsigned q) : ¬ q <+: cs := by
  intro hhead
  rw [unsignedHead] at h
  split at h
  · cases h
  · next hinfinity =>
    split at h
    · next hempty =>
      cases hq with
      | infinity => exact hinfinity (List.isPrefixOf_iff_prefix.2 hhead)
      | decimal hmantissa =>
        have hle := hmantissa.length_le ((List.prefix_append _ _).trans hhead)
        rw [List.isEmpty_iff.1 hempty] at hle
        exact hmantissa.ne_nil (List.length_eq_zero_iff.1 (Nat.le_zero.1 hle))
    · cases h

/-- No mantissa with an exponent is longer than the mantissa and the exponent that are found. -/
theorem length_decimal_le {mantissa exponent cs : List Char} (hmantissa : IsMantissa mantissa)
    (hexponent : exponent = [] ∨ IsExponent exponent) (hhead : mantissa ++ exponent <+: cs) :
    (mantissa ++ exponent).length ≤
      (mantissaHead cs ++ exponentHead (cs.drop (mantissaHead cs).length)).length := by
  obtain ⟨hfound, hmantissaHead⟩ := mantissaHead_spec cs
  have hmhead : mantissa <+: cs := (List.prefix_append _ _).trans hhead
  have hle := hmantissa.length_le hmhead
  rcases hexponent with rfl | hexponent
  · rw [List.append_nil, List.length_append]
    exact Nat.le_add_right_of_le hle
  · rcases Nat.lt_or_eq_of_le hle with hlt | heq
    · -- the mark of the exponent would stand in the mantissa that is found
      cases hexponent with
      | @intro mark sign digits hmark _ _ =>
        have hmarked : mantissa ++ [mark] <+: cs :=
          List.IsPrefix.trans ⟨sign ++ digits, by simp⟩ hhead
        have hinside : mantissa ++ [mark] <+: mantissaHead cs :=
          List.prefix_of_prefix_length_le hmarked hfound (by simpa using Nat.succ_le_of_lt hlt)
        have hmem : mark ∈ mantissaHead cs := hinside.subset (by simp)
        rcases hmantissaHead with hnil | hmantissaHead
        · rw [hnil] at hmem
          cases hmem
        · have hmark' := hmantissaHead.digit_or_point mark hmem
          rcases hmark with rfl | rfl <;> exact absurd hmark' (by decide)
    · have hsame : mantissa = mantissaHead cs :=
        (List.prefix_of_prefix_length_le hmhead hfound hle).eq_of_length heq
      obtain ⟨rest, rfl⟩ := hhead
      rw [List.append_assoc] at hsame ⊢
      rw [← hsame, List.drop_left, hexponent.exponentHead_append]
      simp only [List.length_append]
      omega

/-- Without a sign the scanner finds the longest number that a text starts with. -/
theorem unsignedHead_eq_some {cs p : List Char} (h : unsignedHead cs = some p) :
    IsLongest IsUnsigned cs p := by
  rw [unsignedHead] at h
  split at h
  · next hinfinity =>
    obtain rfl := Option.some.inj h
    have hhead := List.isPrefixOf_iff_prefix.1 hinfinity
    refine ⟨.infinity, hhead, fun q hq hqhead => ?_⟩
    cases hq with
    | infinity => exact Nat.le_refl _
    | decimal hmantissa =>
      have hmhead := (List.prefix_append _ _).trans hqhead
      exact absurd hhead (not_isMantissa_of_infinity hmantissa hmhead)
  · next hinfinity =>
    split at h
    · cases h
    · next hempty =>
      obtain rfl := Option.some.inj h
      obtain ⟨hhead, hfound⟩ := mantissaHead_spec cs
      have hmantissa : IsMantissa (mantissaHead cs) :=
        hfound.resolve_left fun hnil => hempty (List.isEmpty_iff.2 hnil)
      obtain ⟨hexphead, hexponent⟩ := exponentHead_spec (cs.drop (mantissaHead cs).length)
      refine ⟨.decimal hmantissa hexponent, append_isPrefix hhead hexphead, fun q hq hqhead => ?_⟩
      cases hq with
      | infinity => exact absurd (List.isPrefixOf_iff_prefix.2 hqhead) hinfinity
      | decimal hm he => exact length_decimal_le hm he hqhead

/-- Behind the leading sign of a text comes what stands behind the sign of a number that the text
starts with. -/
theorem IsNumber.exists_unsigned {text q : List Char} (h : IsNumber q) (hhead : q <+: text) :
    ∃ body, IsUnsigned body ∧ q = signHead text ++ body ∧
      body <+: text.drop (signHead text).length := by
  obtain ⟨sign, body, hsign, hbody, rfl⟩ := h
  obtain ⟨rest, rfl⟩ := hhead
  obtain ⟨c, cs, rfl, hplus, hminus, -⟩ := hbody.exists_cons
  have hfound : signHead (sign ++ c :: cs ++ rest) = sign := by
    rw [List.append_assoc]
    exact signHead_append hsign hplus hminus _
  refine ⟨c :: cs, hbody, by rw [hfound], ?_⟩
  rw [hfound, List.append_assoc, List.drop_left]
  exact List.prefix_append _ _

/-- Nothing is found only where no number can start. -/
theorem numberHead_eq_none {text : List Char} (h : numberHead text = none) {q : List Char}
    (hq : IsNumber q) : ¬ q <+: text := by
  intro hhead
  obtain ⟨body, hbody, -, hbodyhead⟩ := hq.exists_unsigned hhead
  rw [numberHead_eq, Option.map_eq_none_iff] at h
  exact unsignedHead_eq_none h hbody hbodyhead

/-- The scanner finds the longest number that a text starts with. -/
theorem numberHead_eq_some {text p : List Char} (h : numberHead text = some p) :
    IsLongest IsNumber text p := by
  rw [numberHead_eq, Option.map_eq_some_iff] at h
  obtain ⟨body, hbody, rfl⟩ := h
  have hlongest := unsignedHead_eq_some hbody
  refine ⟨⟨_, body, isSign_signHead text, hlongest.mem, rfl⟩,
    append_isPrefix (signHead_isPrefix text) hlongest.head, fun q hq hhead => ?_⟩
  obtain ⟨body', hbody', rfl, hhead'⟩ := hq.exists_unsigned hhead
  have hle := hlongest.longest body' hbody' hhead'
  rw [List.length_append, List.length_append]
  omega

/-- A text has one longest head at most. -/
theorem IsLongest.unique {L : List Char → Prop} {text p q : List Char} (hp : IsLongest L text p)
    (hq : IsLongest L text q) : p = q :=
  (List.prefix_of_prefix_length_le hp.head hq.head (hq.longest p hp.mem hp.head)).eq_of_length_le
    (hp.longest q hq.mem hq.head)

/-- The number that is found is the longest one that the text starts with. -/
theorem numberHead_eq_some_iff {text p : List Char} :
    numberHead text = some p ↔ IsLongest IsNumber text p := by
  refine ⟨numberHead_eq_some, fun h => ?_⟩
  cases hfound : numberHead text with
  | none => exact absurd h.head (numberHead_eq_none hfound h.mem)
  | some q => rw [(numberHead_eq_some hfound).unique h]

/-! ### Values -/

/-- The value of a number by itself. -/
theorem IsNumber.leadingNumber_eq {p : List Char} (h : IsNumber p) :
    leadingNumber p = numberValue p := by
  have hself : numberHead p = some p :=
    numberHead_eq_some_iff.2 ⟨h, List.prefix_rfl, fun _ _ hhead => hhead.length_le⟩
  rw [leadingNumber, h.dropWhile_eq, hself]

/-- A sign is split off and tells whether it is a minus. -/
theorem splitSign_append {sign : List Char} (h : IsSign sign) {c : Char} (hplus : c ≠ '+')
    (hminus : c ≠ '-') (cs : List Char) :
    splitSign (sign ++ c :: cs) = (decide (sign = ['-']), c :: cs) := by
  rcases h with rfl | rfl | rfl
  · rw [List.nil_append, splitSign]
    · rfl
    · exact fun _ heq => hminus (List.cons_eq_cons.1 heq).1
    · exact fun _ heq => hplus (List.cons_eq_cons.1 heq).1
  · rfl
  · rfl

/-- The word for infinity has an infinite value, of the sign before it. -/
theorem numberValue_infinity {sign : List Char} (h : IsSign sign) :
    numberValue (sign ++ infinityWord) = signedFloat (decide (sign = ['-'])) infinityBits := by
  have hsplit : splitSign (sign ++ infinityWord) = (decide (sign = ['-']), infinityWord) :=
    splitSign_append h (by decide) (by decide) _
  rw [numberValue, hsplit]
  exact if_pos rfl

/-- Without the word for infinity the digits decide: outside ASCII they have no value. -/
theorem numberValue_decimal {sign mantissa exponent : List Char} (hsign : IsSign sign)
    (hmantissa : IsMantissa mantissa) (hexponent : exponent = [] ∨ IsExponent exponent) :
    numberValue (sign ++ (mantissa ++ exponent)) =
      if (sign ++ (mantissa ++ exponent)).all fun c => c.toNat < 128 then
        literalValue (sign ++ (mantissa ++ exponent))
      else nan := by
  have hbody : IsUnsigned (mantissa ++ exponent) := .decimal hmantissa hexponent
  have hword : mantissa ++ exponent ≠ infinityWord := fun heq =>
    not_isMantissa_of_infinity hmantissa (List.prefix_append mantissa exponent)
      (heq ▸ List.prefix_rfl)
  obtain ⟨c, rest, heq, hplus, hminus, -⟩ := hbody.exists_cons
  have hsplit := splitSign_append hsign hplus hminus rest
  rw [← heq] at hsplit
  rw [numberValue, hsplit]
  exact if_neg hword

/-- What stands before the word for infinity is a sign. -/
theorem IsNumber.isSign_of_infinity {sign : List Char} (h : IsNumber (sign ++ infinityWord)) :
    IsSign sign := by
  obtain ⟨sign', body, hsign', hbody, heq⟩ := h
  cases hbody with
  | infinity => exact List.append_cancel_right heq ▸ hsign'
  | decimal hmantissa hexponent =>
    have hsigns : 'I' ∉ sign' := by rcases hsign' with rfl | rfl | rfl <;> decide
    have hmem : 'I' ∈ sign ++ infinityWord := List.mem_append_right _ (by decide)
    rw [heq] at hmem
    have hbody := (List.mem_append.1 hmem).resolve_left hsigns
    exact absurd (digit_or_mark_of_mem hmantissa hexponent 'I' hbody) (by decide)

/-- A number is without a value exactly if one of its digits is not ASCII. -/
theorem IsNumber.isNaN_numberValue_iff {p : List Char} (h : IsNumber p) :
    (numberValue p).isNaN = true ↔ ∃ c ∈ p, isDecimalDigit c = true ∧ 128 ≤ c.toNat := by
  obtain ⟨sign, body, hsign, hbody, rfl⟩ := h
  cases hbody with
  | infinity =>
    have hword : ∀ c ∈ infinityWord, c.toNat < 128 := lt_128_of_all rfl
    rw [numberValue_infinity hsign, isNaN_signedFloat _ (Nat.le_refl _)]
    refine iff_of_false Bool.false_ne_true ?_
    rintro ⟨c, hc, -, hle⟩
    exact Nat.not_lt_of_le hle ((List.mem_append.1 hc).elim (hsign.lt_128 c) (hword c))
  | @decimal mantissa exponent hmantissa hexponent =>
    rw [numberValue_decimal hsign hmantissa hexponent]
    split
    · next hascii =>
      rw [isNaN_literalValue]
      refine iff_of_false Bool.false_ne_true ?_
      rintro ⟨c, hc, -, hle⟩
      exact Nat.not_lt_of_le hle (lt_128_of_all hascii c hc)
    · next hascii =>
      refine iff_of_true isNaN_nan ?_
      rw [Bool.not_eq_true, List.all_eq_false] at hascii
      obtain ⟨c, hc, hlarge⟩ := hascii
      rw [decide_eq_true_iff, Nat.not_lt] at hlarge
      refine ⟨c, hc, ?_, hlarge⟩
      -- the marks and the sign are ASCII, so the large character is a digit
      have hmarks : ∀ c ∈ ['.', 'e', 'E', '+', '-'], c.toNat < 128 := lt_128_of_all rfl
      rcases List.mem_append.1 hc with hsignc | hbodyc
      · exact absurd (hsign.lt_128 c hsignc) (Nat.not_lt_of_le hlarge)
      · refine (digit_or_mark_of_mem hmantissa hexponent c hbodyc).resolve_right fun hmark => ?_
        exact Nat.not_lt_of_le hlarge (hmarks c hmark)

/-- A number other than infinity in ASCII has the value of a decimal literal. -/
theorem IsNumber.numberValue_eq {p : List Char} (h : IsNumber p)
    (hword : ¬ infinityWord <:+ p) (hascii : ∀ c ∈ p, c.toNat < 128) :
    numberValue p = literalValue p := by
  obtain ⟨sign, body, hsign, hbody, rfl⟩ := h
  cases hbody with
  | infinity => exact absurd (List.suffix_append sign infinityWord) hword
  | decimal hmantissa hexponent =>
    rw [numberValue_decimal hsign hmantissa hexponent]
    exact if_pos (List.all_eq_true.2 fun c hc => decide_eq_true (hascii c hc))

/-- Behind its white space a text is read by the longest number that it starts with, and by nothing
else: if there is one it has the value of that number by itself, and otherwise none. The word for
infinity has infinity with the sign as its value, a digit that is not ASCII makes the value none,
and any other number is a decimal literal. -/
theorem leadingNumber_longest (raw : List Char) :
    let text := raw.dropWhile isWhiteSpace
    ((∀ p, p <+: text → ¬ IsNumber p) → (leadingNumber raw).isNaN = true) ∧
    ((∃ p, p <+: text ∧ IsNumber p) → ∃! p, IsLongest IsNumber text p) ∧
    ∀ p, IsLongest IsNumber text p →
      leadingNumber raw = leadingNumber p ∧
      (∀ sign, p = sign ++ infinityWord →
        leadingNumber p = signedFloat (decide (sign = ['-'])) infinityBits ∧
        (leadingNumber p).isInf = true ∧ (leadingNumber p < 0 ↔ sign = ['-'])) ∧
      ((leadingNumber p).isNaN = true ↔ ∃ c ∈ p, isDecimalDigit c = true ∧ 128 ≤ c.toNat) ∧
      (¬ infinityWord <:+ p → (∀ c ∈ p, c.toNat < 128) → leadingNumber p = literalValue p) := by
  intro text
  refine ⟨fun hnone => ?_, fun ⟨p, hhead, hp⟩ => ?_, fun p hp => ?_⟩
  · have hnot : numberHead text = none := by
      rw [Option.eq_none_iff_forall_ne_some]
      intro p hp
      exact hnone p (numberHead_eq_some hp).head (numberHead_eq_some hp).mem
    rw [leadingNumber, hnot]
    exact isNaN_nan
  · cases hfound : numberHead text with
    | none => exact absurd hhead (numberHead_eq_none hfound hp)
    | some q =>
      have hq := numberHead_eq_some hfound
      exact ⟨q, hq, fun q' hq' => hq'.unique hq⟩
  · have hvalue := hp.mem.leadingNumber_eq
    -- the scanner finds the longest number, so this is the one whose value is taken
    have hraw : leadingNumber raw = numberValue p := by
      rw [leadingNumber, numberHead_eq_some_iff.2 hp]
    rw [hvalue]
    refine ⟨hraw, ?_, hp.mem.isNaN_numberValue_iff, hp.mem.numberValue_eq⟩
    rintro sign rfl
    have hinfinity := numberValue_infinity hp.mem.isSign_of_infinity
    obtain ⟨hinf, hneg⟩ := signedFloat_infinityBits (decide (sign = ['-']))
    rw [hinfinity]
    exact ⟨rfl, hinf, hneg.trans decide_eq_true_iff⟩

/-- White space before a number, and behind it what begins like an exponent; a digit behind
infinity; a digit that is not ASCII; and a text that starts with no number. -/
theorem leadingNumber_longest_oddTexts :
    (let raw := "\u3000-12.e+x".toList
    IsLongest IsNumber (raw.dropWhile isWhiteSpace) "-12.".toList ∧
      leadingNumber raw = literalValue "-12.".toList ∧ (leadingNumber raw).isNaN = false) ∧
    (let raw := "-Infinity9".toList
    IsLongest IsNumber (raw.dropWhile isWhiteSpace) ("-".toList ++ infinityWord) ∧
      leadingNumber raw = signedFloat true infinityBits ∧ (leadingNumber raw).isInf = true) ∧
    (let raw := "1\u0662e5.".toList
    IsLongest IsNumber (raw.dropWhile isWhiteSpace) "1\u0662e5".toList ∧
      (leadingNumber raw).isNaN = true) ∧
    let raw := "+.e1".toList
    (∀ p, p <+: raw.dropWhile isWhiteSpace → ¬ IsNumber p) ∧ (leadingNumber raw).isNaN = true := by
  refine ⟨?_, ?_, ?_, ?_⟩
  · intro raw
    have hp : IsLongest IsNumber (raw.dropWhile isWhiteSpace) "-12.".toList :=
      numberHead_eq_some (by decide +kernel)
    obtain ⟨heq, -, hnan, hvalue⟩ := (leadingNumber_longest raw).2.2 _ hp
    have hascii : ∀ c ∈ "-12.".toList, c.toNat < 128 := lt_128_of_all rfl
    rw [heq]
    refine ⟨hp, hvalue (by decide) hascii, ?_⟩
    rw [← Bool.not_eq_true, hnan]
    rintro ⟨c, hc, -, hle⟩
    exact Nat.not_lt_of_le hle (hascii c hc)
  · intro raw
    have hp : IsLongest IsNumber (raw.dropWhile isWhiteSpace) ("-".toList ++ infinityWord) :=
      numberHead_eq_some (by decide +kernel)
    obtain ⟨heq, hinfinity, -, -⟩ := (leadingNumber_longest raw).2.2 _ hp
    rw [heq]
    obtain ⟨hvalue, hinf, -⟩ := hinfinity _ rfl
    exact ⟨hp, hvalue, hinf⟩
  · intro raw
    have hp : IsLongest IsNumber (raw.dropWhile isWhiteSpace) "1\u0662e5".toList :=
      numberHead_eq_some (by decide +kernel)
    obtain ⟨heq, -, hnan, -⟩ := (leadingNumber_longest raw).2.2 _ hp
    rw [heq]
    exact ⟨hp, hnan.2 ⟨'\u0662', by decide, by decide, by decide⟩⟩
  · intro raw
    have hnone : ∀ p, p <+: raw.dropWhile isWhiteSpace → ¬ IsNumber p := fun p hhead hp =>
      numberHead_eq_none (by decide +kernel) hp hhead
    exact ⟨hnone, (leadingNumber_longest raw).1 hnone⟩

end ClusterGraph.Layout
