import ClusterGraph.Proofs.Json.Strings

/-!
# Values are read back as they were written

A value without numbers is read back from its text exactly when its arrays and objects fit into the
room that the reader has (`gives_readValue`); otherwise the text is malformed. What stands behind
the text makes no difference.
-/

namespace ClusterGraph.Json

/-! ### Nesting -/

mutual

/-- The number of arrays and objects that stand inside one another, empty ones included. -/
def depth : Json → Nat
  | array items => depthOfItems items + 1
  | object fields => depthOfFields fields + 1
  | null | bool _ | unsigned _ | signed _ | float _ | string _ => 0

/-- The greatest depth of some items. -/
def depthOfItems : List Json → Nat
  | [] => 0
  | item :: rest => max (depth item) (depthOfItems rest)

/-- The greatest depth of the values of some entries. -/
def depthOfFields : List (String × Json) → Nat
  | [] => 0
  | (_, value) :: rest => max (depth value) (depthOfFields rest)

end

/-- Items lie as deep as the deepest of them. -/
theorem depthOfItems_le_iff {items : List Json} {n : Nat} :
    depthOfItems items ≤ n ↔ ∀ v ∈ items, v.depth ≤ n := by
  induction items with
  | nil => simp [depthOfItems]
  | cons v rest ih => rw [depthOfItems, Nat.max_le, ih, List.forall_mem_cons]

/-- Entries lie as deep as the deepest of their values. -/
theorem depthOfFields_le_iff {fields : List (String × Json)} {n : Nat} :
    depthOfFields fields ≤ n ↔ ∀ f ∈ fields, f.2.depth ≤ n := by
  induction fields with
  | nil => simp [depthOfFields]
  | cons f rest ih => rw [depthOfFields, Nat.max_le, ih, List.forall_mem_cons]

mutual

/-- No number stands in a value. -/
def NumberFree : Json → Prop
  | array items => NumberFreeItems items
  | object fields => NumberFreeFields fields
  | null | bool _ | string _ => True
  | unsigned _ | signed _ | float _ => False

/-- No number stands in some items. -/
def NumberFreeItems : List Json → Prop
  | [] => True
  | item :: rest => NumberFree item ∧ NumberFreeItems rest

/-- No number stands in the values of some entries. -/
def NumberFreeFields : List (String × Json) → Prop
  | [] => True
  | (_, value) :: rest => NumberFree value ∧ NumberFreeFields rest

end

/-- Items hold no number when none of them does. -/
theorem numberFreeItems_iff {items : List Json} :
    NumberFreeItems items ↔ ∀ v ∈ items, v.NumberFree := by
  induction items with
  | nil => simp [NumberFreeItems]
  | cons v rest ih => simp [NumberFreeItems, ih]

/-- Entries hold no number when none of their values does. -/
theorem numberFreeFields_iff {fields : List (String × Json)} :
    NumberFreeFields fields ↔ ∀ f ∈ fields, f.2.NumberFree := by
  induction fields with
  | nil => simp [NumberFreeFields]
  | cons f rest ih => simp [NumberFreeFields, ih]

/-! ### Words and strings -/

/-- A value that is not a number starts with a quote, a bracket, a brace or a letter. -/
theorem startsWord_compact {v : Json} (h : v.NumberFree) : StartsWord v.compact := by
  have hstart {c : Char} {rest : List Char} (hc : c ∈ wordStarts ∧ c ≠ ']' ∧ c ≠ closeBrace) :
      StartsWord (c :: rest) := ⟨c, rest, rfl, hc⟩
  cases v with
  | null => exact hstart (by decide)
  | bool b => cases b <;> exact hstart (by decide)
  | string s => exact startsWord_stringText s
  | array items => exact hstart (by decide)
  | object fields => exact hstart (by decide)
  | unsigned n => exact h.elim
  | signed i => exact h.elim
  | float x => exact h.elim

/-- A string is read back from its literal, whatever was expected. -/
theorem gives_readString (expected s : String) :
    Gives (readString expected) (stringText s) (.ok s) :=
  fun rest => gives_scanString s rest

theorem readString?_quote (cs : List Char) : readString? ('"' :: cs) =
    (do
      let (s, rest) ← readString "a string" ('"' :: cs)
      .ok (some s, rest)) := rfl

/-- A string that may be missing is read back, from its literal or from `null`. -/
theorem gives_readString? (s : Option String) :
    Gives readString? (ofString? s).compact (.ok s) := by
  intro rest
  cases s with
  | none => rfl
  | some s =>
    have hread := gives_readString "a string" s rest
    simp only [stringText, List.cons_append] at hread
    simp only [ofString?, compact, stringText, List.cons_append, readString?_quote, hread, map_ok,
      ok_bind]

/-- A truth value is read back from its word. -/
theorem gives_readBool (b : Bool) : Gives readBool (bool b).compact (.ok b) := by
  intro rest
  cases b <;> rfl

/-! ### Values -/

/-- Behind a quote stands a string. -/
theorem readValue_quote (room : Nat) (cs : List Char) : readValue room ('"' :: cs) =
    (do
      let (s, rest) ← scanString cs
      .ok (string s, rest)) := by
  cases room <;> rfl

/-- Behind an opening bracket stands an array, with room for one level less. -/
theorem readValue_openBracket (room : Nat) (cs : List Char) : readValue (room + 1) ('[' :: cs) =
    (do
      let (items, rest) ← readItems spacing (readValue room) cs
      .ok (array items, rest)) := rfl

/-- Behind an opening brace stands an object, with room for one level less. -/
theorem readValue_openBrace (room : Nat) (cs : List Char) :
    readValue (room + 1) (openBrace :: cs) =
      (do
        let (fields, rest) ← readFields spacing (quotedKey scanString) (readValue room) cs
        .ok (object fields, rest)) := rfl

/-- An array fits when its items fit with one level less. -/
theorem depth_array_le_iff {items : List Json} {room : Nat} :
    (array items).depth ≤ room + 1 ↔ ∀ v ∈ items, v.depth ≤ room := by
  rw [depth, Nat.add_le_add_iff_right, depthOfItems_le_iff]

/-- An object fits when its values fit with one level less. -/
theorem depth_object_le_iff {fields : List (String × Json)} {room : Nat} :
    (object fields).depth ≤ room + 1 ↔ ∀ f ∈ fields, f.2.depth ≤ room := by
  rw [depth, Nat.add_le_add_iff_right, depthOfFields_le_iff]

/-- A value, if there is room for its arrays and objects. -/
def ifFits (room : Nat) (v : Json) : Except ReadError Json := okIf (v.depth ≤ room) v

/-- Items are read back when all of them fit. -/
theorem mapM_ifFits (room : Nat) (items : List Json) :
    items.mapM (ifFits room) = okIf (∀ v ∈ items, v.depth ≤ room) items :=
  mapM_okIf_self _ items

/-- Entries are read back when all of their values fit. -/
theorem mapM_fieldOutcome_ifFits (room : Nat) (fields : List (String × Json)) :
    fields.mapM (fieldOutcome .ok (ifFits room)) =
      okIf (∀ f ∈ fields, f.2.depth ≤ room) fields := by
  have hfield : fieldOutcome .ok (ifFits room) =
      fun f : String × Json => okIf (f.2.depth ≤ room) f :=
    funext fun _ => okIf_bind_ok rfl
  rw [hfield, mapM_okIf_self]

mutual

/-- A value without numbers is read back when there is room for its arrays and objects. -/
theorem gives_readValue : (v : Json) → v.NumberFree → (room : Nat) →
    Gives (readValue room) v.compact (ifFits room v)
  | .null, _, room => fun rest => by cases room <;> rfl
  | .bool b, _, room => fun rest => by cases room <;> cases b <;> rfl
  | .string s, _, room => fun rest => by
    have hfits : (string s).depth ≤ room := Nat.zero_le room
    simp only [compact, stringText, List.cons_append, readValue_quote, gives_scanString s rest,
      map_ok, ok_bind, ifFits, okIf_pos hfits]
  | .array items, _, 0 => fun rest => by
    -- no room is left for the array, so neither side gives a value
    have hroom : ¬ (array items).depth ≤ 0 := by simp [depth]
    rw [ifFits, okIf_neg hroom]
    rfl
  | .array items, hfree, room + 1 => fun rest => by
    have hread := gives_readItems keepsWords_spacing
      (fun v hv => startsWord_compact (numberFreeItems_iff.1 hfree v hv))
      (gives_readValue_items items hfree room) rest
    rw [compact, List.cons_append, List.cons_append, readValue_openBracket, hread, mapM_ifFits,
      map_okIf, ifFits, okIf_congr depth_array_le_iff, map_okIf]
    exact okIf_bind_ok rfl
  | .object fields, _, 0 => fun rest => by
    have hroom : ¬ (object fields).depth ≤ 0 := by simp [depth]
    rw [ifFits, okIf_neg hroom]
    rfl
  | .object fields, hfree, room + 1 => fun rest => by
    have hread := gives_readFields keepsWords_spacing (fun f _ => gives_quotedKey f.1)
      (gives_readValue_fields fields hfree room) rest
    rw [compact, List.cons_append, List.cons_append, readValue_openBrace, hread,
      mapM_fieldOutcome_ifFits, map_okIf, ifFits, okIf_congr depth_object_le_iff, map_okIf]
    exact okIf_bind_ok rfl
  | .unsigned _, hfree, _ => hfree.elim
  | .signed _, hfree, _ => hfree.elim
  | .float _, hfree, _ => hfree.elim

/-- Items without numbers are read back, each of them when there is room for it. -/
theorem gives_readValue_items : (items : List Json) → NumberFreeItems items → (room : Nat) →
    ∀ v ∈ items, Gives (readValue room) v.compact (ifFits room v)
  | [], _, _ => fun _ hv => absurd hv List.not_mem_nil
  | v :: rest, hfree, room => List.forall_mem_cons.2
    ⟨gives_readValue v hfree.1 room, gives_readValue_items rest hfree.2 room⟩

/-- The values of entries without numbers are read back, each of them when there is room for it. -/
theorem gives_readValue_fields : (fields : List (String × Json)) → NumberFreeFields fields →
    (room : Nat) → ∀ f ∈ fields, Gives (readValue room) f.2.compact (ifFits room f.2)
  | [], _, _ => fun _ hf => absurd hf List.not_mem_nil
  | (_, v) :: rest, hfree, room => List.forall_mem_cons.2
    ⟨gives_readValue v hfree.1 room, gives_readValue_fields rest hfree.2 room⟩

end

end ClusterGraph.Json
