import ClusterGraph.Proofs.Json.ReadBack
import ClusterGraph.Proofs.Json5.Strings

/-!
# JSON texts as JSON5

Every JSON value without numbers has a value in JSON5 (`Json5.ofJson`) that it can be taken back
from (`Json5.toJson_ofJson`). JSON5 reads the text of the JSON value as just that, unless a line
ends in the text in the sense of JSON5; then it refuses the text (`Json5.ofText?_compact`). Nothing
but strings can bring in the end of a line, since blanks are not written.
-/

namespace ClusterGraph

/-! ### Nesting and length -/

namespace Json

/-- What stands between commas is no longer than the whole. -/
private theorem length_le_of_mem {β : Type} (word : β → List Char) {a b : β} {l : List β}
    (h : b ∈ a :: l) : (word b).length ≤ (word a ++ l.flatMap fun b => ',' :: word b).length := by
  rcases List.mem_cons.1 h with rfl | h
  · rw [List.length_append]
    exact Nat.le_add_right _ _
  · obtain ⟨s, t, rfl⟩ := List.append_of_mem h
    simp only [List.flatMap_append, List.flatMap_cons, List.length_append, List.length_cons]
    omega

/-- The text of an item is part of that of its array. -/
theorem length_compact_le_of_mem {v : Json} {items : List Json} (h : v ∈ items) :
    v.compact.length ≤ (compactItems items).length := by
  cases items with
  | nil => cases h
  | cons item rest =>
    rw [compactItems_cons]
    exact length_le_of_mem compact h

/-- The text of a value is part of that of its object. -/
theorem length_compact_le_of_mem_fields {f : String × Json} {fields : List (String × Json)}
    (h : f ∈ fields) : f.2.compact.length ≤ (compactFields fields).length := by
  cases fields with
  | nil => cases h
  | cons field rest =>
    have hfield := length_le_of_mem fieldText h
    rw [compactFields_cons]
    refine Nat.le_trans ?_ hfield
    simp only [fieldText, List.length_append, List.length_cons]
    omega

mutual

/-- Every array and every object that is opened inside others takes a character. -/
theorem depth_le_length_compact : (v : Json) → v.depth ≤ v.compact.length
  | .array items => by
    have hitems : depthOfItems items ≤ (compactItems items).length :=
      depthOfItems_le_iff.2 fun v hv =>
        Nat.le_trans (depth_le_length_items items v hv) (length_compact_le_of_mem hv)
    simp only [depth, compact, List.length_append, List.length_cons]
    omega
  | .object fields => by
    have hfields : depthOfFields fields ≤ (compactFields fields).length :=
      depthOfFields_le_iff.2 fun f hf =>
        Nat.le_trans (depth_le_length_fields fields f hf) (length_compact_le_of_mem_fields hf)
    simp only [depth, compact, List.length_append, List.length_cons]
    omega
  | .null => Nat.zero_le _
  | .bool _ => Nat.zero_le _
  | .unsigned _ => Nat.zero_le _
  | .signed _ => Nat.zero_le _
  | .float _ => Nat.zero_le _
  | .string _ => Nat.zero_le _

theorem depth_le_length_items : (items : List Json) → ∀ v ∈ items, v.depth ≤ v.compact.length
  | [] => fun _ h => absurd h List.not_mem_nil
  | v :: rest =>
    List.forall_mem_cons.2 ⟨depth_le_length_compact v, depth_le_length_items rest⟩

theorem depth_le_length_fields : (fields : List (String × Json)) →
    ∀ f ∈ fields, f.2.depth ≤ f.2.compact.length
  | [] => fun _ h => absurd h List.not_mem_nil
  | (_, v) :: rest =>
    List.forall_mem_cons.2 ⟨depth_le_length_compact v, depth_le_length_fields rest⟩

end

end Json

namespace Json5

open Json

/-! ### The value of a JSON text -/

mutual

/-- The value that the text of a JSON value has in JSON5. -/
def ofJson : Json → Json5
  | .null => .null
  | .bool b => .bool b
  | .unsigned n => .number (Nat.toDigits 10 n)
  | .signed i => .number (toString i).toList
  | .float x => .number (numberText x).toList
  | .string s => .string (s.toList.map partOf)
  | .array items => .array (ofJsonItems items)
  | .object fields => .object (ofJsonFields fields)

/-- The values of items. -/
def ofJsonItems : List Json → List Json5
  | [] => []
  | item :: rest => ofJson item :: ofJsonItems rest

/-- The keys and values of entries. -/
def ofJsonFields : List (String × Json) → List (List Part × Json5)
  | [] => []
  | (key, value) :: rest => (key.toList.map partOf, ofJson value) :: ofJsonFields rest

end

mutual

/-- Without numbers, a JSON value is what its value in JSON5 stands for. -/
theorem toJson_ofJson : (v : Json) → v.NumberFree → (ofJson v).toJson = .ok v
  | .null, _ => rfl
  | .bool _, _ => rfl
  | .string s, _ => by rw [ofJson, toJson, text_map_partOf, map_ok]
  | .array items, hfree => by rw [ofJson, toJson, itemsToJson_ofJsonItems items hfree, map_ok]
  | .object fields, hfree => by rw [ofJson, toJson, fieldsToJson_ofJsonFields fields hfree, map_ok]
  | .unsigned _, hfree => hfree.elim
  | .signed _, hfree => hfree.elim
  | .float _, hfree => hfree.elim

theorem itemsToJson_ofJsonItems : (items : List Json) → NumberFreeItems items →
    itemsToJson (ofJsonItems items) = .ok items
  | [], _ => rfl
  | v :: rest, hfree => by
    rw [ofJsonItems, itemsToJson, toJson_ofJson v hfree.1, ok_bind,
      itemsToJson_ofJsonItems rest hfree.2, ok_bind]

theorem fieldsToJson_ofJsonFields : (fields : List (String × Json)) → NumberFreeFields fields →
    fieldsToJson (ofJsonFields fields) = .ok fields
  | [], _ => rfl
  | (key, v) :: rest, hfree => by
    rw [ofJsonFields, fieldsToJson, text_map_partOf, ok_bind, toJson_ofJson v hfree.1, ok_bind,
      fieldsToJson_ofJsonFields rest hfree.2, ok_bind]

end

/-! ### Reading -/

/-- No blank and no comment starts where a word starts. -/
theorem keepsWords_spacing : spacing.KeepsWords := by
  intro c hc rest
  have hall : wordStarts.all fun c => c ≠ '/' ∧ isSpace c = false := by decide
  obtain ⟨hslash, hspace⟩ := of_decide_eq_true (List.all_eq_true.1 hall c hc)
  have hskip : skipFrom .spaces (c :: rest) = some (c :: rest) := by
    rw [skipFrom]
    · simp [hspace]
    · exact fun _ h _ => hslash h
    · exact fun _ h _ => hslash h
  simp [spacing, skip, hskip]

/-- The parts of a key, if it stands on one line. -/
def keyIfOneLine (s : String) : Except ReadError (List Part) :=
  okIf (OneLine (stringText s)) (s.toList.map partOf)

/-- A key behind a quote is read as a string. -/
theorem scanKey_quote (cs : List Char) : scanKey ('"' :: cs) = scanQuoted ('"' :: cs) := by
  simp only [scanKey, true_or, if_true]

/-- A key in quotes is read unless its literal holds a line end. -/
theorem gives_scanKey (s : String) : Gives scanKey (stringText s) (keyIfOneLine s) := by
  intro rest
  have hread := gives_scanQuoted s rest
  rwa [stringText, List.cons_append, List.cons_append, ← scanKey_quote] at hread

/-- Commas end no line, so an array ends lines only where its items do. -/
theorem oneLine_compactItems {items : List Json} :
    OneLine (compactItems items) ↔ ∀ v ∈ items, OneLine v.compact := by
  have hcomma : isLineEnd ',' = false := by decide
  cases items with
  | nil => simp [compactItems]
  | cons v rest => simp [compactItems_cons, oneLine_flatMap, hcomma]

/-- Commas end no line, so an object ends lines only where its entries do. -/
theorem oneLine_compactFields {fields : List (String × Json)} :
    OneLine (compactFields fields) ↔ ∀ f ∈ fields, OneLine (fieldText f) := by
  have hcomma : isLineEnd ',' = false := by decide
  cases fields with
  | nil => simp [compactFields]
  | cons f rest => simp [compactFields_cons, oneLine_flatMap, hcomma]

/-- Brackets end no line. -/
private theorem oneLine_between {first last : Char} {cs : List Char}
    (hfirst : isLineEnd first = false) (hlast : isLineEnd last = false) :
    OneLine (first :: cs ++ [last]) ↔ OneLine cs := by
  simp [hfirst, hlast]

/-- Brackets end no line. -/
theorem oneLine_array {items : List Json} :
    OneLine (Json.array items).compact ↔ OneLine (compactItems items) := by
  rw [compact]
  exact oneLine_between (by decide) (by decide)

/-- Braces end no line. -/
theorem oneLine_object {fields : List (String × Json)} :
    OneLine (Json.object fields).compact ↔ OneLine (compactFields fields) := by
  rw [compact]
  exact oneLine_between (by decide) (by decide)

/-- Colons end no line. -/
theorem oneLine_fieldText {f : String × Json} :
    OneLine (fieldText f) ↔ OneLine (stringText f.1) ∧ OneLine f.2.compact := by
  have hcolon : isLineEnd ':' = false := by decide
  simp [fieldText, hcolon]

/-- The value of a text in JSON5, if it stands on one line. -/
def ifOneLine (v : Json) : Except ReadError Json5 := okIf (OneLine v.compact) (ofJson v)

/-- Items are taken over one by one. -/
theorem ofJsonItems_eq_map (items : List Json) : ofJsonItems items = items.map ofJson := by
  induction items with
  | nil => rfl
  | cons v rest ih => rw [ofJsonItems, ih, List.map_cons]

/-- Entries are taken over one by one. -/
theorem ofJsonFields_eq_map (fields : List (String × Json)) :
    ofJsonFields fields = fields.map fun f => (f.1.toList.map partOf, ofJson f.2) := by
  induction fields with
  | nil => rfl
  | cons f rest ih => rw [ofJsonFields, ih, List.map_cons]

/-- The items of an array are all read, unless one of them holds a line end. -/
theorem mapM_ifOneLine (items : List Json) : items.mapM ifOneLine =
    okIf (OneLine (compactItems items)) (ofJsonItems items) := by
  rw [okIf_congr oneLine_compactItems, ofJsonItems_eq_map]
  exact mapM_okIf _ _ _

/-- An entry is read unless its key or its value holds a line end. -/
theorem fieldOutcome_ifOneLine (f : String × Json) : fieldOutcome keyIfOneLine ifOneLine f =
    okIf (OneLine (fieldText f)) (f.1.toList.map partOf, ofJson f.2) := by
  rw [okIf_congr oneLine_fieldText]
  exact okIf_bind (okIf_bind_ok rfl)

/-- The entries of an object are all read, unless one of them holds a line end. -/
theorem mapM_fieldOutcome_ifOneLine (fields : List (String × Json)) :
    fields.mapM (fieldOutcome keyIfOneLine ifOneLine) =
      okIf (OneLine (compactFields fields)) (ofJsonFields fields) := by
  rw [okIf_congr oneLine_compactFields, ofJsonFields_eq_map, funext fieldOutcome_ifOneLine]
  exact mapM_okIf _ _ _

/-- A value behind a quote is a string. -/
theorem readValue_stringText (room : Nat) (s : String) (rest : List Char) :
    readValue room (stringText s ++ rest) =
      (do
        let (parts, rest) ← scanQuoted (stringText s ++ rest)
        .ok (.string parts, rest)) := by
  cases room <;> rfl

/-- A value behind an opening bracket is an array, with room for one level less. -/
theorem readValue_openBracket (room : Nat) (cs : List Char) : readValue (room + 1) ('[' :: cs) =
    (do
      let (items, rest) ← readItems spacing (readValue room) cs
      .ok (.array items, rest)) := rfl

/-- A value behind an opening brace is an object, with room for one level less. -/
theorem readValue_openBrace (room : Nat) (cs : List Char) :
    readValue (room + 1) (openBrace :: cs) =
      (do
        let (fields, rest) ← readFields spacing scanKey (readValue room) cs
        .ok (.object fields, rest)) := rfl

mutual

/-- The text of a value without numbers is read as its value in JSON5, if it stands on one line. -/
theorem gives_readValue : (v : Json) → v.NumberFree → {room : Nat} → v.depth ≤ room →
    Gives (readValue room) v.compact (ifOneLine v)
  | .null, _, room, _ => fun rest => by cases room <;> rfl
  | .bool b, _, room, _ => fun rest => by cases room <;> cases b <;> rfl
  | .string s, _, room, _ => fun rest => by
    rw [compact, readValue_stringText, gives_scanQuoted s rest, map_okIf, ifOneLine, map_okIf]
    exact okIf_bind_ok rfl
  | .array items, _, 0, hdepth => absurd hdepth (by simp [depth])
  | .array items, hfree, room + 1, hdepth => fun rest => by
    have hread := gives_readItems keepsWords_spacing
      (fun v hv => startsWord_compact (numberFreeItems_iff.1 hfree v hv))
      (gives_readValue_items items hfree (Nat.le_of_succ_le_succ hdepth)) rest
    rw [compact, List.cons_append, List.cons_append, readValue_openBracket, hread, mapM_ifOneLine,
      map_okIf, ifOneLine, okIf_congr oneLine_array, map_okIf]
    exact okIf_bind_ok rfl
  | .object fields, _, 0, hdepth => absurd hdepth (by simp [depth])
  | .object fields, hfree, room + 1, hdepth => fun rest => by
    have hread := gives_readFields keepsWords_spacing (fun f _ => gives_scanKey f.1)
      (gives_readValue_fields fields hfree (Nat.le_of_succ_le_succ hdepth)) rest
    rw [compact, List.cons_append, List.cons_append, readValue_openBrace, hread,
      mapM_fieldOutcome_ifOneLine, map_okIf, ifOneLine, okIf_congr oneLine_object, map_okIf]
    exact okIf_bind_ok rfl
  | .unsigned _, hfree, _, _ => hfree.elim
  | .signed _, hfree, _, _ => hfree.elim
  | .float _, hfree, _, _ => hfree.elim

/-- The texts of items are read, each of them if it stands on one line. -/
theorem gives_readValue_items : (items : List Json) → NumberFreeItems items → {room : Nat} →
    depthOfItems items ≤ room → ∀ v ∈ items, Gives (readValue room) v.compact (ifOneLine v)
  | [], _, _, _ => fun _ hv => absurd hv List.not_mem_nil
  | v :: rest, hfree, _, hdepth => List.forall_mem_cons.2
    ⟨gives_readValue v hfree.1 (Nat.le_trans (Nat.le_max_left _ _) hdepth),
      gives_readValue_items rest hfree.2 (Nat.le_trans (Nat.le_max_right _ _) hdepth)⟩

/-- The texts of the values of entries are read, each of them if it stands on one line. -/
theorem gives_readValue_fields : (fields : List (String × Json)) → NumberFreeFields fields →
    {room : Nat} → depthOfFields fields ≤ room →
    ∀ f ∈ fields, Gives (readValue room) f.2.compact (ifOneLine f.2)
  | [], _, _, _ => fun _ hf => absurd hf List.not_mem_nil
  | (_, v) :: rest, hfree, _, hdepth => List.forall_mem_cons.2
    ⟨gives_readValue v hfree.1 (Nat.le_trans (Nat.le_max_left _ _) hdepth),
      gives_readValue_fields rest hfree.2 (Nat.le_trans (Nat.le_max_right _ _) hdepth)⟩

end

/-- A text that JSON writes without numbers breaks the grammar of JSON5 exactly when a line ends in
it. -/
theorem ofText?_compact {v : Json} (hfree : v.NumberFree) :
    ofText? (v.text false) = if OneLine v.compact then some (ofJson v) else none := by
  have hroom : v.depth ≤ v.compact.length + 1 :=
    Nat.le_trans (depth_le_length_compact v) (Nat.le_succ _)
  have hread := gives_readValue v hfree hroom []
  rw [List.append_nil] at hread
  simp only [ofText?, Json.text, Bool.false_eq_true, if_false, String.toList_ofList, hread,
    ifOneLine]
  by_cases h : OneLine v.compact
  · rw [okIf_pos h, if_pos h]
    rfl
  · rw [okIf_neg h, if_neg h]
    rfl

end Json5

end ClusterGraph
