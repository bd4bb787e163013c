import ClusterGraph.Proofs.Json.Sequences
import Mathlib.Tactic.SplitIfs

/-!
# Strings are read back as they were written

A character is written in one of three forms (`escapeChar_forms`): behind a backslash as a letter,
with four digits when it is another control, or as itself. Reading takes each form for one piece,
and the piece joins to the character (`exists_piece`); no written unit is part of a surrogate pair.
So every text is read back from its literal, whatever its characters (`gives_scanString`).
-/

namespace ClusterGraph.Json

/-- The letters that written strings have behind a backslash. -/
def shortLetters : List Char := ['"', '\\', 'n', 'r', 't', 'b', 'f']

/-- A character is written with a letter that stands for it, by its number, or as itself. -/
theorem escapeChar_forms (c : Char) :
    (∃ letter ∈ shortLetters, escapedChar? letter = some c ∧ escapeChar c = ['\\', letter]) ∨
      (c.toNat < 0x20 ∧ escapeChar c =
        ['\\', 'u', '0', '0', hexDigit (c.toNat / 16), hexDigit (c.toNat % 16)]) ∨
      (c ≠ '"' ∧ c ≠ '\\' ∧ 0x20 ≤ c.toNat ∧ escapeChar c = [c]) := by
  have hofNat {n : Nat} (h : c.toNat = n) : c = Char.ofNat n := by rw [← h, Char.ofNat_toNat]
  unfold escapeChar
  split_ifs with hquote hslash hline hreturn htab hback hfeed hcontrol
  · exact .inl ⟨'"', by decide, by rw [hquote]; rfl, rfl⟩
  · exact .inl ⟨'\\', by decide, by rw [hslash]; rfl, rfl⟩
  · exact .inl ⟨'n', by decide, by rw [hline]; rfl, rfl⟩
  · exact .inl ⟨'r', by decide, by rw [hreturn]; rfl, rfl⟩
  · exact .inl ⟨'t', by decide, by rw [htab]; rfl, rfl⟩
  · exact .inl ⟨'b', by decide, by rw [hofNat hback]; rfl, rfl⟩
  · exact .inl ⟨'f', by decide, by rw [hofNat hfeed]; rfl, rfl⟩
  · exact .inr (.inl ⟨hcontrol, rfl⟩)
  · exact .inr (.inr ⟨hquote, hslash, Nat.le_of_not_lt hcontrol, rfl⟩)

/-- The two digits of a control are read as its number. -/
theorem hexUnit?_control {n : Nat} (h : n < 0x20) :
    hexUnit? '0' '0' (hexDigit (n / 16)) (hexDigit (n % 16)) = some n := by
  have hall : ∀ n < 0x20, hexUnit? '0' '0' (hexDigit (n / 16)) (hexDigit (n % 16)) = some n := by
    decide
  exact hall n h

theorem isLead_control {n : Nat} (h : n < 0x20) : isLead n = false := by
  simp [isLead]
  omega

theorem isTrail_control {n : Nat} (h : n < 0x20) : isTrail n = false := by
  simp [isTrail]
  omega

/-- A unit that is no part of a pair is a character. -/
theorem joinPieces_unit {n : Nat} (hlead : isLead n = false) (htrail : isTrail n = false)
    (pieces : List Piece) :
    joinPieces (.unit n :: pieces) = (joinPieces pieces).cons (Char.ofNat n) := by
  cases pieces with
  | nil => simp [joinPieces, hlead, htrail, Joined.cons]
  | cons piece rest => cases piece <;> simp [joinPieces, hlead, htrail]

/-- The form of a character is one piece, and joining gives the character back. -/
theorem exists_piece (c : Char) : ∃ piece,
    (∀ pieces, joinPieces (piece :: pieces) = (joinPieces pieces).cons c) ∧
      ∀ cs, scanPieces (escapeChar c ++ cs) = (piece :: (scanPieces cs).1, (scanPieces cs).2) := by
  rcases escapeChar_forms c with ⟨letter, hmem, hletter, hform⟩ | ⟨hlt, hform⟩ |
    ⟨hquote, hslash, hge, hform⟩
  · refine ⟨.char c, fun pieces => by simp only [joinPieces], fun cs => ?_⟩
    have hu : letter ≠ 'u' := fun h => by rw [h] at hmem; exact absurd hmem (by decide)
    rw [hform, List.cons_append, List.cons_append, List.nil_append, scanPieces, hletter]
    · exact fun _ _ _ _ _ h _ => hu h
    · exact hu
  · refine ⟨.unit c.toNat, fun pieces => ?_, fun cs => ?_⟩
    · rw [joinPieces_unit (isLead_control hlt) (isTrail_control hlt), Char.ofNat_toNat]
    · simp [hform, scanPieces, hexUnit?_control hlt]
  · refine ⟨.char c, fun pieces => by simp only [joinPieces], fun cs => ?_⟩
    simp [hform, scanPieces, hslash, Nat.not_lt.2 hge]

/-- A literal is read as the text it was written for. -/
theorem gives_scanString (s : String) :
    Gives scanString (s.toList.flatMap escapeChar ++ ['"']) (.ok s) := by
  intro rest
  have hpieces : ∀ cs : List Char, ∃ pieces, joinPieces pieces = .text cs ∧
      scanPieces (cs.flatMap escapeChar ++ '"' :: rest) = (pieces, .ok rest) := by
    intro cs
    induction cs with
    | nil => exact ⟨[], rfl, by simp [scanPieces]⟩
    | cons c cs ih =>
      obtain ⟨pieces, hjoin, hscan⟩ := ih
      obtain ⟨piece, hpiece, hform⟩ := exists_piece c
      refine ⟨piece :: pieces, by rw [hpiece, hjoin]; rfl, ?_⟩
      rw [List.flatMap_cons, List.append_assoc, hform, hscan]
  obtain ⟨pieces, hjoin, hscan⟩ := hpieces s.toList
  simp only [scanString, List.append_assoc, List.cons_append, List.nil_append, hscan, hjoin,
    String.ofList_toList, map_ok]

/-- A key is read as the text it was written for. -/
theorem gives_quotedKey (s : String) : Gives (quotedKey scanString) (stringText s) (.ok s) :=
  fun rest => gives_scanString s rest

/-- Behind the key of an entry stand its colon and its value. -/
theorem scanField_fieldText {σ : Type} (field : String → Scan σ) (f : String × Json)
    (rest : List Char) : scanField (quotedKey scanString) field (fieldText f ++ rest) =
      field f.1 (':' :: (f.2.compact ++ rest)) := by
  simp only [scanField, fieldText, List.append_assoc, List.cons_append, gives_quotedKey f.1 _,
    map_ok, ok_bind]

end ClusterGraph.Json
