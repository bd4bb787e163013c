import ClusterGraph.Proofs.Json.Strings
import ClusterGraph.Snapshot

/-!
# Blanks between words

The text of a value over several lines and its text without blanks differ in blanks between words
only: when the blanks outside of string literals are dropped from the one, the other is left
(`Json.condenses_prettyAt`), and so it is for the two texts of a graph (`Graph.dropBlanks_text`).
Where a literal begins and ends is read off the text, so what stands in a literal must not look like
its end: a quote is only ever written behind a backslash, and every backslash stands in front of
what it escapes (`Json.inLiteral_escapeChar`). Numbers hold neither quotes nor blanks.
-/

namespace ClusterGraph

namespace Json

/-! ### Dropping blanks -/

/-- Where a character stands in a text. -/
inductive Place where
  | betweenWords
  /-- Inside a string literal. -/
  | inLiteral
  /-- Inside a string literal, behind a backslash. -/
  | escaped

/-- Drops the blanks that stand outside of string literals, from a place on. -/
def dropBlanks : Place → List Char → List Char
  | _, [] => []
  | .betweenWords, c :: rest =>
    if c = '"' then c :: dropBlanks .inLiteral rest
    else if isBlank c then dropBlanks .betweenWords rest
    else c :: dropBlanks .betweenWords rest
  | .inLiteral, c :: rest =>
    if c = '"' then c :: dropBlanks .betweenWords rest
    else if c = '\\' then c :: dropBlanks .escaped rest
    else c :: dropBlanks .inLiteral rest
  | .escaped, c :: rest => c :: dropBlanks .inLiteral rest

/-- A text, which has no literal that is left open, becomes another one when its blanks are
dropped. -/
def Condenses (cs ds : List Char) : Prop :=
  ∀ rest, dropBlanks .betweenWords (cs ++ rest) = ds ++ dropBlanks .betweenWords rest

namespace Condenses

theorem nil : Condenses [] [] := fun _ => rfl

/-- Texts that hold whole literals each can be taken one after the other. -/
theorem append {cs ds cs' ds' : List Char} (h : Condenses cs ds) (h' : Condenses cs' ds') :
    Condenses (cs ++ cs') (ds ++ ds') := by
  intro rest
  rw [List.append_assoc, h, h', List.append_assoc]

/-- A character that is neither a quote nor a blank is kept. -/
theorem cons {c : Char} {cs ds : List Char} (hquote : c ≠ '"') (hblank : isBlank c = false)
    (h : Condenses cs ds) : Condenses (c :: cs) (c :: ds) := by
  intro rest
  simp only [List.cons_append, dropBlanks, if_neg hquote, hblank, h rest]
  rfl

/-- A blank between words is dropped. -/
theorem blank {c : Char} {cs ds : List Char} (hblank : isBlank c = true) (h : Condenses cs ds) :
    Condenses (c :: cs) ds := by
  have hquote : c ≠ '"' := fun heq => by rw [heq] at hblank; exact absurd hblank (by decide)
  intro rest
  simp only [List.cons_append, dropBlanks, if_neg hquote, hblank, if_true, h rest]

/-- A line feed and an indentation are all blanks. -/
theorem newLine (depth : Nat) : Condenses (newLine depth) [] := by
  have hspaces : ∀ n, Condenses (List.replicate n ' ') [] := by
    intro n
    induction n with
    | zero => exact nil
    | succ n ih => exact blank rfl ih
  exact blank rfl (hspaces _)

end Condenses

/-! ### Literals -/

/-- The form of a character is kept in a literal, and does not end it. -/
theorem inLiteral_escapeChar (c : Char) (rest : List Char) :
    dropBlanks .inLiteral (escapeChar c ++ rest) =
      escapeChar c ++ dropBlanks .inLiteral rest := by
  rcases escapeChar_forms c with ⟨letter, -, -, hform⟩ | ⟨hlt, hform⟩ | ⟨hquote, hslash, -, hform⟩
  · rw [hform]
    rfl
  · have hdigits : ∀ n < 0x20, hexDigit n ≠ '"' ∧ hexDigit n ≠ '\\' := by decide
    have hfirst := hdigits (c.toNat / 16) (by omega)
    have hsecond := hdigits (c.toNat % 16) (by omega)
    simp [hform, dropBlanks, hfirst, hsecond]
  · simp [hform, dropBlanks, hquote, hslash]

/-- A literal keeps its blanks, and ends at its own closing quote. -/
theorem condenses_stringText (s : String) : Condenses (stringText s) (stringText s) := by
  have hliteral : ∀ cs rest : List Char,
      dropBlanks .inLiteral (cs.flatMap escapeChar ++ '"' :: rest) =
        cs.flatMap escapeChar ++ '"' :: dropBlanks .betweenWords rest := by
    intro cs rest
    induction cs with
    | nil => rfl
    | cons c cs ih =>
      rw [List.flatMap_cons, List.append_assoc, inLiteral_escapeChar, ih, List.append_assoc]
  intro rest
  simp only [stringText, List.cons_append, List.append_assoc, List.nil_append, dropBlanks, if_true,
    hliteral]

/-! ### Numbers -/

/-- Neither quotes nor blanks stand in a text. -/
def IsBare (cs : List Char) : Prop := ∀ c ∈ cs, c ≠ '"' ∧ isBlank c = false

instance (cs : List Char) : Decidable (IsBare cs) :=
  List.decidableBAll (fun c => c ≠ '"' ∧ isBlank c = false) cs

theorem IsBare.append {cs ds : List Char} (h : IsBare cs) (h' : IsBare ds) : IsBare (cs ++ ds) :=
  List.forall_mem_append.2 ⟨h, h'⟩

/-- A text without quotes and blanks is kept as it is. -/
theorem IsBare.condenses {cs : List Char} (h : IsBare cs) : Condenses cs cs := by
  induction cs with
  | nil => exact .nil
  | cons c cs ih =>
    obtain ⟨⟨hquote, hblank⟩, hrest⟩ := List.forall_mem_cons.1 h
    exact .cons hquote hblank (ih hrest)

/-- Digits are neither quotes nor blanks. -/
theorem isBare_of_isDigit {cs : List Char} (h : ∀ c ∈ cs, c.isDigit = true) : IsBare cs := by
  intro c hc
  have hdigit := h c hc
  refine ⟨fun heq => ?_, ?_⟩
  · rw [heq] at hdigit
    exact absurd hdigit (by decide)
  · simp [isBlank]
    refine ⟨⟨⟨?_, ?_⟩, ?_⟩, ?_⟩ <;> rintro rfl <;> exact absurd hdigit (by decide)

/-- A number in base ten is written without quotes and blanks. -/
theorem isBare_toDigits (n : Nat) : IsBare (Nat.toDigits 10 n) :=
  isBare_of_isDigit fun _ hc => Nat.isDigit_of_mem_toDigits (by decide) (by decide) hc

theorem isBare_toList_digitsOf (n : Nat) : IsBare (NumberStyle.digitsOf n).toList := by
  rw [NumberStyle.digitsOf, String.toList_ofList]
  exact isBare_toDigits n

theorem isBare_toList_zeros (count : Nat) : IsBare (NumberStyle.zeros count).toList := by
  rw [NumberStyle.zeros, String.toList_ofList]
  exact isBare_of_isDigit fun c hc => by rw [List.eq_of_mem_replicate hc]; rfl

theorem isBare_toList_plain (d : Decimal) : IsBare (NumberStyle.plain d).toList := by
  have hpoint : IsBare ".".toList := by decide
  have hzero : IsBare ".0".toList := by decide
  have hzeroPoint : IsBare "0.".toList := by decide
  have hdigits := isBare_toDigits d.digits
  simp only [NumberStyle.plain]
  split
  · simp only [String.toList_append]
    exact ((isBare_toList_digitsOf _).append (isBare_toList_zeros _)).append hzero
  · split
    · simp only [String.toList_append, String.toList_ofList]
      refine IsBare.append (IsBare.append ?_ hpoint) ?_
      · exact fun c hc => hdigits c (List.mem_of_mem_take hc)
      · exact fun c hc => hdigits c (List.mem_of_mem_drop hc)
    · simp only [String.toList_append, String.toList_ofList]
      exact (hzeroPoint.append (isBare_toList_zeros _)).append hdigits

theorem isBare_toList_scientific (d : Decimal) : IsBare (NumberStyle.scientific d).toList := by
  have hpoint : IsBare ".".toList := by decide
  have hmark : IsBare "e".toList := by decide
  have hsigns : IsBare "-".toList ∧ IsBare "+".toList := by decide
  have hdigits := isBare_toDigits d.digits
  simp only [NumberStyle.scientific, String.toList_append]
  refine ((IsBare.append ?_ hmark).append ?_).append (isBare_toList_digitsOf _)
  · split
    · exact fun _ hc => absurd hc List.not_mem_nil
    · next c heq =>
      rw [heq] at hdigits
      simpa only [String.toList_singleton] using hdigits
    · next c rest _ heq =>
      rw [heq] at hdigits
      obtain ⟨hfirst, hrest⟩ := List.forall_mem_cons.1 hdigits
      simp only [String.toList_append, String.toList_singleton, String.toList_ofList]
      exact IsBare.append (IsBare.append (List.forall_mem_singleton.2 hfirst) hpoint) hrest
  · split
    · exact hsigns.1
    · exact hsigns.2

theorem isBare_toList_magnitude {style : NumberStyle} (h : IsBare style.infinity.toList)
    (bits : Nat) : IsBare (style.magnitude bits).toList := by
  have hzero : IsBare "0.0".toList := by decide
  simp only [NumberStyle.magnitude]
  split
  · exact hzero
  · split
    · exact h
    · split
      · exact isBare_toList_plain _
      · split
        · exact isBare_toList_plain _
        · exact isBare_toList_scientific _

/-- A number is written without quotes and blanks, with or without an exponent. -/
theorem isBare_toList_numberText (x : Float) : IsBare (numberText x).toList := by
  have hnull : IsBare "null".toList := by decide
  have hminus : IsBare "-".toList := by decide
  simp only [numberText, NumberStyle.write]
  split
  · split
    · exact hnull
    · split
      · exact isBare_toList_magnitude hnull _
      · rw [String.toList_append]
        exact hminus.append (isBare_toList_magnitude hnull _)
  · exact hnull

/-- The sign of a number is neither a quote nor a blank. -/
theorem isBare_toList_toString (i : Int) : IsBare (toString i).toList := by
  have hminus : IsBare "-".toList := by decide
  cases i with
  | ofNat n => exact isBare_toList_digitsOf n
  | negSucc n =>
    change IsBare ("-" ++ (n + 1).repr).toList
    rw [String.toList_append]
    exact hminus.append (isBare_toList_digitsOf _)

/-! ### Values -/

/-- A value behind its key, with a blank behind the colon. -/
theorem condenses_field {key : String} {value : Json} {cs : List Char}
    (h : Condenses cs value.compact) :
    Condenses (stringText key ++ ':' :: ' ' :: cs) (fieldText (key, value)) :=
  (condenses_stringText key).append (.cons (by decide) rfl (.blank rfl h))

/-- What stands between brackets, on lines of its own, between a first and a last line feed. -/
theorem condenses_between {start stop : Char} (depth : Nat) {cs ds cs' ds' : List Char}
    (hstart : start ≠ '"' ∧ isBlank start = false) (hstop : stop ≠ '"' ∧ isBlank stop = false)
    (hfirst : Condenses cs ds) (hrest : Condenses cs' ds') :
    Condenses (start :: newLine (depth + 1) ++ cs ++ cs' ++ newLine depth ++ [stop])
      (start :: (ds ++ ds') ++ [stop]) := by
  have hlast := (Condenses.newLine depth).append (.cons hstop.1 hstop.2 .nil)
  have hinside := (((Condenses.newLine (depth + 1)).append hfirst).append hrest).append hlast
  have hall := Condenses.cons hstart.1 hstart.2 hinside
  simpa only [List.nil_append, List.cons_append, List.append_assoc] using hall

mutual

/-- When its blanks are dropped, the text of a value over several lines is its text without
blanks. -/
theorem condenses_prettyAt (depth : Nat) : ∀ v : Json, Condenses (prettyAt depth v) v.compact
  | .null => (show IsBare "null".toList by decide).condenses
  | .bool true => (show IsBare "true".toList by decide).condenses
  | .bool false => (show IsBare "false".toList by decide).condenses
  | .unsigned n => (isBare_toDigits n).condenses
  | .signed i => (isBare_toList_toString i).condenses
  | .float x => (isBare_toList_numberText x).condenses
  | .string s => condenses_stringText s
  | .array [] => (show IsBare ['[', ']'] by decide).condenses
  | .array (item :: rest) => by
    rw [prettyAt, compact, compactItems_cons]
    exact condenses_between depth (by decide) (by decide) (condenses_prettyAt _ item)
      (condenses_prettyItems _ rest)
  | .object [] => (show IsBare [openBrace, closeBrace] by decide).condenses
  | .object ((key, value) :: rest) => by
    have hfirst : Condenses _ (fieldText (key, value)) :=
      condenses_field (condenses_prettyAt (depth + 1) value)
    have hopen : openBrace ≠ '"' ∧ isBlank openBrace = false := by decide
    have hclose : closeBrace ≠ '"' ∧ isBlank closeBrace = false := by decide
    have hbetween := condenses_between depth hopen hclose hfirst
      (condenses_prettyFields (depth + 1) rest)
    rw [prettyAt, compact, compactFields_cons]
    simpa only [List.append_assoc, List.cons_append] using hbetween

/-- Line by line, the items of an array become those between commas. -/
theorem condenses_prettyItems (depth : Nat) : ∀ items : List Json,
    Condenses (prettyItems depth items) (items.flatMap fun v => ',' :: v.compact)
  | [] => .nil
  | item :: rest => by
    have hfirst := (Condenses.newLine depth).append (condenses_prettyAt depth item)
    exact (Condenses.cons (by decide) rfl hfirst).append (condenses_prettyItems depth rest)

/-- Line by line, the entries of an object become those between commas. -/
theorem condenses_prettyFields (depth : Nat) : ∀ fields : List (String × Json),
    Condenses (prettyFields depth fields) (fields.flatMap fun f => ',' :: fieldText f)
  | [] => .nil
  | (key, value) :: rest => by
    have hfield : Condenses _ (fieldText (key, value)) :=
      condenses_field (condenses_prettyAt depth value)
    have hfirst : Condenses (',' :: _) _ :=
      .cons (by decide) rfl ((Condenses.newLine depth).append hfield)
    have hall := hfirst.append (condenses_prettyFields depth rest)
    simpa only [prettyFields, List.flatMap_cons, List.nil_append, List.append_assoc,
      List.cons_append] using hall

end

end Json

/-- The two texts of a graph say the same: when the blanks outside of string literals are dropped
from the text over several lines, the text without blanks is left. -/
theorem Graph.dropBlanks_text (g : Graph) :
    String.ofList (Json.dropBlanks .betweenWords (g.text true).toList) = g.text false := by
  have hdrop := Json.condenses_prettyAt 0 g.snapshot.toJson []
  rw [List.append_nil, Json.dropBlanks, List.append_nil] at hdrop
  rw [Graph.text, Graph.text, Json.text, Json.text, if_pos rfl, String.toList_ofList, Json.pretty,
    hdrop]
  rfl

end ClusterGraph
