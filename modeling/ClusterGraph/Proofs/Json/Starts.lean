import ClusterGraph.Proofs.Json.Sequences

/-!
# What a text starts with

A text that was read as a value starts as the value says: with a bracket, with a quote, or with a
word or a number (`Json.starts_of_readValue`). This is what readers that expect something in
particular can be compared with; a reader of texts gives the text that is the value
(`Json.readString_of_readValue`).
-/

namespace ClusterGraph.Json

/-- The value is `null`, a truth value or a number. -/
def IsWord : Json → Prop
  | null | bool _ | unsigned _ | signed _ | float _ => True
  | string _ | array _ | object _ => False

/-- A number is a word: it is neither a string nor an array nor an object. -/
theorem isWord_of_toJson? {t : NumberText} {v : Json} (h : t.toJson? = some v) : v.IsWord := by
  have hfloat : ∀ x : Option Float, x.map float = some v → v.IsWord := by
    intro x hx
    obtain ⟨y, -, rfl⟩ := Option.map_eq_some_iff.1 hx
    exact trivial
  simp only [NumberText.toJson?] at h
  split at h
  · exact hfloat _ h
  · split at h
    · exact hfloat _ h
    · split at h
      · cases h
        exact trivial
      · split at h
        · cases h
          exact trivial
        · cases h
          exact trivial

/-- What is neither an array nor an object is a text, read from a literal, or a word. -/
theorem readScalar_cases {cs rest : List Char} {v : Json} (h : readScalar cs = .ok (v, rest)) :
    (∃ s cs', v = string s ∧ cs = '"' :: cs' ∧ scanString cs' = .ok (s, rest)) ∨ v.IsWord := by
  -- what is read from a keyword is a word
  have hword : ∀ {word cs' : List Char} {u : Json},
      (do .ok (u, ← scanWord word cs') : Except ReadError (Json × List Char)) = .ok (v, rest) →
        u.IsWord → v.IsWord := by
    intro word cs' u hread hu
    obtain ⟨rest', -, heq⟩ := bind_eq_ok_iff.1 hread
    cases heq
    exact hu
  simp only [readScalar] at h
  split at h
  · cases h
  · exact .inr (hword h trivial)
  · exact .inr (hword h trivial)
  · exact .inr (hword h trivial)
  · next cs' =>
    obtain ⟨⟨s, rest'⟩, hscan, heq⟩ := bind_eq_ok_iff.1 h
    cases heq
    exact .inl ⟨s, cs', rfl, rfl, hscan⟩
  · split at h
    · obtain ⟨⟨t, rest'⟩, -, heq⟩ := bind_eq_ok_iff.1 h
      dsimp only at heq
      split at heq
      · next value hvalue =>
        cases heq
        exact .inr (isWord_of_toJson? hvalue)
      · cases heq
    · cases h

/-- What a text that was read as a value starts with. -/
inductive Starts : Nat → List Char → Json → List Char → Prop
  | items {room : Nat} {cs cs' rest : List Char} {items : List Json}
      (hopen : skipBlanks cs = '[' :: cs')
      (hitems : readItems spacing (readValue room) cs' = .ok (items, rest)) :
      Starts (room + 1) cs (array items) rest
  | fields {room : Nat} {cs cs' rest : List Char} {fields : List (String × Json)}
      (hopen : skipBlanks cs = openBrace :: cs')
      (hfields : readFields spacing (quotedKey scanString) (readValue room) cs' =
        .ok (fields, rest)) :
      Starts (room + 1) cs (object fields) rest
  | literal {room : Nat} {cs cs' rest : List Char} {s : String}
      (hopen : skipBlanks cs = '"' :: cs') (hscan : scanString cs' = .ok (s, rest)) :
      Starts room cs (string s) rest
  | word {room : Nat} {cs rest : List Char} {v : Json} (hword : v.IsWord) : Starts room cs v rest

/-- What a value was read from starts as values of its kind do, and what it holds was read from
behind that start. -/
theorem starts_of_readValue {room : Nat} {cs rest : List Char} {v : Json}
    (h : readValue room cs = .ok (v, rest)) : Starts room cs v rest := by
  rw [readValue.eq_def] at h
  split at h
  · cases h
  · next c cs' hskip =>
    by_cases hbracket : c = '['
    · subst hbracket
      rw [if_pos rfl] at h
      cases room with
      | zero => cases h
      | succ room =>
        obtain ⟨⟨items, rest'⟩, hitems, heq⟩ := bind_eq_ok_iff.1 h
        cases heq
        exact .items hskip hitems
    · rw [if_neg hbracket] at h
      by_cases hbrace : c = openBrace
      · subst hbrace
        rw [if_pos rfl] at h
        cases room with
        | zero => cases h
        | succ room =>
          obtain ⟨⟨fields, rest'⟩, hfields, heq⟩ := bind_eq_ok_iff.1 h
          cases heq
          exact .fields hskip hfields
      · rw [if_neg hbrace] at h
        obtain ⟨s, cs'', rfl, heq, hscan⟩ | hword := readScalar_cases h
        · exact .literal (hskip.trans heq) hscan
        · exact .word hword

/-- A value that is a text is read as one by the reader of texts. -/
theorem readString_of_readValue {room : Nat} {cs rest : List Char} {s : String}
    (h : readValue room cs = .ok (string s, rest)) (expected : String) :
    readString expected cs = .ok (s, rest) := by
  cases starts_of_readValue h with
  | literal hopen hscan =>
    rw [readString, hopen]
    exact hscan
  | word hword => exact hword.elim

end ClusterGraph.Json
