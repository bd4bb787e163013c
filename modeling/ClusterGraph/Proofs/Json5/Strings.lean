import ClusterGraph.Json5.Reader
import ClusterGraph.Json5.Value
import ClusterGraph.Proofs.Json.Strings

/-!
# JSON strings as JSON5

JSON5 reads the escapes that JSON writes, and gives the same characters (`characters_partOf`). It
differs in one point: a line may not end inside a string, and JSON5 counts the line and paragraph
separators U+2028 and U+2029 among the ends of lines, which JSON writes as they are. So a literal
that JSON wrote is read as the text it was written for exactly when neither stands in it
(`gives_scanQuoted`).
-/

namespace ClusterGraph.Json5

open Json

/-! ### Texts on one line -/

/-- No line ends in a text, in the sense of JSON5. -/
def OneLine (cs : List Char) : Prop := ∀ c ∈ cs, isLineEnd c = false

instance (cs : List Char) : Decidable (OneLine cs) :=
  List.decidableBAll (fun c => isLineEnd c = false) cs

@[simp] theorem oneLine_cons {c : Char} {cs : List Char} :
    OneLine (c :: cs) ↔ isLineEnd c = false ∧ OneLine cs := List.forall_mem_cons

@[simp] theorem oneLine_append {cs ds : List Char} :
    OneLine (cs ++ ds) ↔ OneLine cs ∧ OneLine ds := List.forall_mem_append

theorem oneLine_flatMap {β : Type} {f : β → List Char} {l : List β} :
    OneLine (l.flatMap f) ↔ ∀ b ∈ l, OneLine (f b) := List.forall_mem_flatMap

@[simp] theorem oneLine_nil : OneLine [] := fun _ h => absurd h List.not_mem_nil

/-- An escaped control ends no line. -/
theorem oneLine_control {n : Nat} (h : n < 0x20) :
    OneLine ['\\', 'u', '0', '0', hexDigit (n / 16), hexDigit (n % 16)] := by
  have hall : ∀ n < 0x20,
      OneLine ['\\', 'u', '0', '0', hexDigit (n / 16), hexDigit (n % 16)] := by decide
  exact hall n h

/-! ### Characters -/

/-- The part that the written form of a character is read as. -/
def partOf (c : Char) : Part :=
  match escapeChar c with
  | [_, letter] => .escaped letter
  | [c] => .literal c
  | _ => .unit c.toNat

/-- The letters behind a backslash stand for the same characters in both formats. -/
theorem escapedChar?_eq_unescape {letter : Char} (h : letter ∈ shortLetters) :
    escapedChar? letter = some (unescape letter) := by
  have hall : shortLetters.all fun letter => escapedChar? letter = some (unescape letter) := by
    decide
  exact of_decide_eq_true (List.all_eq_true.1 hall letter h)

/-- A unit that is no part of a pair is a character. -/
theorem characters_unit {n : Nat} (hlead : isLead n = false) (htrail : isTrail n = false)
    (parts : List Part) : characters (.unit n :: parts) =
      (characters parts).map fun cs => Char.ofNat n :: cs := by
  cases parts with
  | nil => simp [characters, hlead, htrail]
  | cons part parts =>
    simp only [characters, hlead, htrail, Bool.false_eq_true, if_false]
    cases characters (part :: parts) <;> rfl

/-- The part of a character gives the character back. -/
theorem characters_partOf (c : Char) (parts : List Part) :
    characters (partOf c :: parts) = (characters parts).map fun cs => c :: cs := by
  rcases escapeChar_forms c with ⟨letter, hmem, hletter, hform⟩ | ⟨hlt, hform⟩ |
    ⟨-, -, -, hform⟩
  · rw [escapedChar?_eq_unescape hmem, Option.some_inj] at hletter
    simp only [partOf, hform, characters, hletter]
    cases characters parts <;> rfl
  · simp only [partOf, hform, characters_unit (isLead_control hlt) (isTrail_control hlt),
      Char.ofNat_toNat]
  · simp only [partOf, hform, characters]
    cases characters parts <;> rfl

/-- A letter behind a backslash is one part. -/
theorem scanParts_letter {letter : Char} (h : letter ∈ shortLetters) (cs : List Char) :
    scanParts '"' ('\\' :: letter :: cs) =
      (scanParts '"' cs).map fun p => (.escaped letter :: p.1, p.2) := by
  have hall : shortLetters.all fun letter => letter ≠ 'x' ∧ letter ≠ 'u' ∧ letter ≠ '\r' ∧
      isLineEnd letter = false ∧ letter ≠ '0' ∧ isEscapable letter = true := by decide
  obtain ⟨hx, hu, hreturn, hline, hzero, hescapable⟩ :=
    of_decide_eq_true (List.all_eq_true.1 hall letter h)
  rw [scanParts]
  · cases scanParts '"' cs with
    | none => rfl
    | some p => simp [hline, hzero, hescapable]
  · exact fun _ _ _ h _ => hx h
  · exact fun _ _ _ _ _ h _ => hu h
  · exact fun _ h _ => hreturn h

/-- The form of a character is one part, unless the character ends a line and is written as it
is. -/
theorem scanParts_escapeChar (c : Char) (cs : List Char) :
    scanParts '"' (escapeChar c ++ cs) =
      if OneLine (escapeChar c) then
        (scanParts '"' cs).map fun p => (partOf c :: p.1, p.2)
      else none := by
  rcases escapeChar_forms c with ⟨letter, hmem, -, hform⟩ | ⟨hlt, hform⟩ |
    ⟨hquote, hslash, -, hform⟩
  · have hall : shortLetters.all fun letter => OneLine ['\\', letter] := by decide
    have hline := of_decide_eq_true (List.all_eq_true.1 hall letter hmem)
    rw [hform, if_pos hline, partOf, hform]
    exact scanParts_letter hmem cs
  · rw [hform, if_pos (oneLine_control hlt), partOf, hform]
    simp only [List.cons_append, List.nil_append, scanParts, hexUnit?_control hlt]
    cases scanParts '"' cs <;> rfl
  · rw [hform, partOf, hform]
    by_cases hline : isLineEnd c = true
    · rw [if_neg (by simp [hline])]
      simp [scanParts, hquote, hslash, hline]
    · rw [if_pos (by simp [hline])]
      simp [scanParts, hquote, hslash, hline]

/-- A literal is read as the text it was written for, if it stands on one line. -/
theorem scanParts_flatMap (cs rest : List Char) :
    scanParts '"' (cs.flatMap escapeChar ++ '"' :: rest) =
      if OneLine (cs.flatMap escapeChar) then some (cs.map partOf, rest) else none := by
  induction cs with
  | nil => simp [scanParts]
  | cons c cs ih =>
    rw [List.flatMap_cons, List.append_assoc, scanParts_escapeChar, ih]
    by_cases hc : OneLine (escapeChar c) <;> by_cases hcs : OneLine (cs.flatMap escapeChar) <;>
      simp [hc, hcs]

/-- A string is read as the text it was written for, if it stands on one line. -/
theorem gives_scanQuoted (s : String) :
    Gives scanQuoted (stringText s) (okIf (OneLine (stringText s)) (s.toList.map partOf)) := by
  intro rest
  have hscan := scanParts_flatMap s.toList rest
  have hstart : stringText s ++ rest = '"' :: (s.toList.flatMap escapeChar ++ '"' :: rest) := by
    simp [stringText]
  have hline : OneLine (stringText s) ↔ OneLine (s.toList.flatMap escapeChar) := by
    have hquote : isLineEnd '"' = false := by decide
    simp [stringText, hquote]
  rw [hstart, okIf_congr hline]
  simp only [scanQuoted, true_or, if_true, hscan]
  by_cases h : OneLine (s.toList.flatMap escapeChar)
  · simp only [if_pos h, okIf_pos h, map_ok]
  · simp only [if_neg h, okIf_neg h, map_error]

theorem text_map_partOf (s : String) : text (s.toList.map partOf) = .ok s := by
  have h (cs : List Char) : characters (cs.map partOf) = .ok cs := by
    induction cs with
    | nil => rfl
    | cons c cs ih => rw [List.map_cons, characters_partOf, ih, map_ok]
  rw [text, h, map_ok, String.ofList_toList]

/-! ### Separators -/

/-- Neither the line separator nor the paragraph separator stands in a text. -/
def NoSeparator (s : String) : Prop := ∀ c ∈ s.toList, c.toNat ≠ 0x2028 ∧ c.toNat ≠ 0x2029

instance (s : String) : Decidable (NoSeparator s) :=
  List.decidableBAll (fun c : Char => c.toNat ≠ 0x2028 ∧ c.toNat ≠ 0x2029) s.toList

/-- The two separators are the only characters that end a line and are written as they are. -/
theorem oneLine_escapeChar {c : Char} :
    OneLine (escapeChar c) ↔ c.toNat ≠ 0x2028 ∧ c.toNat ≠ 0x2029 := by
  rcases escapeChar_forms c with ⟨letter, hmem, hletter, hform⟩ | ⟨hlt, hform⟩ |
    ⟨-, -, hge, hform⟩
  · have hall : shortLetters.all fun letter => OneLine ['\\', letter] ∧
        (unescape letter).toNat ≠ 0x2028 ∧ (unescape letter).toNat ≠ 0x2029 := by decide
    obtain ⟨hline, hunescape⟩ := of_decide_eq_true (List.all_eq_true.1 hall letter hmem)
    rw [escapedChar?_eq_unescape hmem, Option.some_inj] at hletter
    rw [hform, ← hletter]
    exact iff_of_true hline hunescape
  · rw [hform]
    exact iff_of_true (oneLine_control hlt) (by omega)
  · have hline : c ≠ '\n' := fun h => by rw [h] at hge; exact absurd hge (by decide)
    have hreturn : c ≠ '\r' := fun h => by rw [h] at hge; exact absurd hge (by decide)
    simp [hform, isLineEnd, hline, hreturn]

theorem oneLine_stringText {s : String} : OneLine (stringText s) ↔ NoSeparator s := by
  have hquote : isLineEnd '"' = false := by decide
  simp [stringText, hquote, oneLine_flatMap, oneLine_escapeChar, NoSeparator]

end ClusterGraph.Json5
