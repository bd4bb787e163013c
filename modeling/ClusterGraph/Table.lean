/-!
# Tables in order of insertion

A `Table α` holds values under texts, the keys, and lists them in the order in which the keys
were first inserted: setting a key that is present keeps its place, erasing a key and setting it
again moves it to the end. No key occurs twice; the type carries that fact.

The laws read a table through `keys` and `get?`: `keys_insert`, `keys_erase`, `keys_modify` say
where keys stand, `get?_insert`, `get?_erase`, `get?_modify` what is found under them. Where keys
and values are needed in step, `entries_insert`, `entries_erase` and `entries_modify` give the
whole list, and `mem_entries_iff` ties it to the look-up.
-/

namespace ClusterGraph

/-- Values under distinct texts, in order of insertion. -/
structure Table (α : Type) where
  /-- Keys with their values, the earliest key first. -/
  entries : List (String × α)
  /-- No key occurs twice. -/
  nodup : (entries.map Prod.fst).Nodup

namespace Table

variable {α : Type}

/-! ### Entries -/

/-- Sets `key` in place, or at the end when it is new. -/
def insertEntry (key : String) (a : α) : List (String × α) → List (String × α)
  | [] => [(key, a)]
  | (k, b) :: rest => if k = key then (k, a) :: rest else (k, b) :: insertEntry key a rest

/-- Removes `key`. -/
def eraseEntry (key : String) : List (String × α) → List (String × α)
  | [] => []
  | (k, b) :: rest => if k = key then rest else (k, b) :: eraseEntry key rest

/-- Changes the value under `key` by `f`. -/
def modifyEntry (key : String) (f : α → α) : List (String × α) → List (String × α)
  | [] => []
  | (k, b) :: rest => if k = key then (k, f b) :: rest else (k, b) :: modifyEntry key f rest

/-- The value under `key`. -/
def findEntry (key : String) : List (String × α) → Option α
  | [] => none
  | (k, b) :: rest => if k = key then some b else findEntry key rest

/-- A key that is there keeps its place, and a new one comes last. -/
theorem map_fst_insertEntry (key : String) (a : α) (l : List (String × α)) :
    (insertEntry key a l).map Prod.fst =
      if key ∈ l.map Prod.fst then l.map Prod.fst else l.map Prod.fst ++ [key] := by
  induction l with
  | nil => simp [insertEntry]
  | cons head rest ih =>
    obtain ⟨k, b⟩ := head
    unfold insertEntry
    by_cases h : k = key
    · simp [h]
    · have h' : key ≠ k := fun e => h e.symm
      rw [if_neg h]
      simp only [List.map_cons, ih, List.mem_cons, h', false_or]
      split <;> simp

/-- Of a list in which it may occur twice, a key is erased once. -/
theorem map_fst_eraseEntry (key : String) (l : List (String × α)) :
    (eraseEntry key l).map Prod.fst = (l.map Prod.fst).erase key := by
  induction l with
  | nil => rfl
  | cons head rest ih =>
    obtain ⟨k, b⟩ := head
    unfold eraseEntry
    by_cases h : k = key
    · simp [h]
    · simp [h, ih]

/-- Values are changed, and no key. -/
theorem map_fst_modifyEntry (key : String) (f : α → α) (l : List (String × α)) :
    (modifyEntry key f l).map Prod.fst = l.map Prod.fst := by
  induction l with
  | nil => rfl
  | cons head rest ih =>
    obtain ⟨k, b⟩ := head
    unfold modifyEntry
    by_cases h : k = key
    · simp [h]
    · simp [h, ih]

/-! ### Operations -/

/-- The table without keys. -/
def empty : Table α := ⟨[], List.nodup_nil⟩

instance : Inhabited (Table α) := ⟨empty⟩

/-- The keys, the earliest first. -/
def keys (t : Table α) : List String := t.entries.map Prod.fst

/-- The values, in the order of their keys. -/
def values (t : Table α) : List α := t.entries.map Prod.snd

/-- The value under `key`, if there is one. -/
def get? (t : Table α) (key : String) : Option α := findEntry key t.entries

/-- Whether there is a value under `key`. -/
def contains (t : Table α) (key : String) : Bool := (t.get? key).isSome

/-- Sets the value under `key`; a new key comes last. -/
def insert (t : Table α) (key : String) (a : α) : Table α where
  entries := insertEntry key a t.entries
  nodup := by
    rw [map_fst_insertEntry]
    split
    · exact t.nodup
    · next h => exact List.nodup_append.2 ⟨t.nodup, List.pairwise_singleton _ _, by
        intro a ha b hb hab
        exact h (List.mem_singleton.1 hb ▸ hab ▸ ha)⟩

/-- Removes `key` and its value. -/
def erase (t : Table α) (key : String) : Table α where
  entries := eraseEntry key t.entries
  nodup := by rw [map_fst_eraseEntry]; exact t.nodup.erase key

/-- Changes the value under `key` by `f`, if there is one. -/
def modify (t : Table α) (key : String) (f : α → α) : Table α where
  entries := modifyEntry key f t.entries
  nodup := by rw [map_fst_modifyEntry]; exact t.nodup

/-! ### Laws -/

/-- A table is its entries. -/
@[ext] theorem ext_entries {s t : Table α} (h : s.entries = t.entries) : s = t := by
  cases s; cases t; cases h; rfl

/-- No key occurs twice. -/
theorem keys_nodup (t : Table α) : t.keys.Nodup := t.nodup

@[simp] theorem keys_empty : (empty : Table α).keys = [] := rfl

@[simp] theorem get?_empty (key : String) : (empty : Table α).get? key = none := rfl

/-- A key that is there keeps its place, and a new one comes last. -/
theorem keys_insert (t : Table α) (key : String) (a : α) :
    (t.insert key a).keys = if key ∈ t.keys then t.keys else t.keys ++ [key] :=
  map_fst_insertEntry key a t.entries

/-- The other keys keep their order. -/
theorem keys_erase (t : Table α) (key : String) : (t.erase key).keys = t.keys.erase key :=
  map_fst_eraseEntry key t.entries

@[simp] theorem keys_modify (t : Table α) (key : String) (f : α → α) :
    (t.modify key f).keys = t.keys :=
  map_fst_modifyEntry key f t.entries

/-- A value is found under a key of the table, and under no other. -/
theorem get?_isSome_iff {t : Table α} {key : String} : (t.get? key).isSome ↔ key ∈ t.keys := by
  obtain ⟨l, hl⟩ := t
  simp only [get?, keys]
  clear hl
  induction l with
  | nil => simp [findEntry]
  | cons head rest ih =>
    obtain ⟨k, b⟩ := head
    unfold findEntry
    by_cases h : k = key
    · simp [h]
    · have h' : key ≠ k := fun e => h e.symm
      simp [h, h', ih]

/-- A table knows its keys. -/
theorem contains_iff {t : Table α} {key : String} : t.contains key = true ↔ key ∈ t.keys :=
  get?_isSome_iff

/-- Nothing is found under what is no key. -/
theorem get?_eq_none_iff {t : Table α} {key : String} : t.get? key = none ↔ key ∉ t.keys := by
  rw [← get?_isSome_iff]; cases t.get? key <;> simp

/-- Under the key the new value is found, and under the others what was there. -/
theorem get?_insert (t : Table α) (key : String) (a : α) (k : String) :
    (t.insert key a).get? k = if k = key then some a else t.get? k := by
  obtain ⟨l, hl⟩ := t
  simp only [get?, insert]
  clear hl
  induction l with
  | nil => simp [insertEntry, findEntry, eq_comm]
  | cons head rest ih =>
    obtain ⟨k', b⟩ := head
    unfold insertEntry
    by_cases h : k' = key
    · subst h; by_cases hk : k = k' <;> simp [findEntry, hk, eq_comm]
    · rw [if_neg h]
      simp only [findEntry, ih]
      by_cases hk : k' = k
      · subst hk; simp [h]
      · simp [hk]

/-- Under the key the changed value is found, and under the others what was there. -/
theorem get?_modify (t : Table α) (key : String) (f : α → α) (k : String) :
    (t.modify key f).get? k = if k = key then (t.get? k).map f else t.get? k := by
  obtain ⟨l, hl⟩ := t
  simp only [get?, modify]
  clear hl
  induction l with
  | nil => simp [modifyEntry, findEntry]
  | cons head rest ih =>
    obtain ⟨k', b⟩ := head
    unfold modifyEntry
    by_cases h : k' = key
    · subst h; by_cases hk : k = k' <;> simp [findEntry, hk, eq_comm]
    · rw [if_neg h]
      simp only [findEntry, ih]
      by_cases hk : k' = k
      · subst hk; simp [h]
      · simp [hk]

/-- Under the key nothing is found any more, and under the others what was there. -/
theorem get?_erase (t : Table α) (key k : String) :
    (t.erase key).get? k = if k = key then none else t.get? k := by
  obtain ⟨l, hl⟩ := t
  simp only [get?, erase]
  induction l with
  | nil => simp [eraseEntry, findEntry]
  | cons head rest ih =>
    obtain ⟨k', b⟩ := head
    have hnd := List.nodup_cons.1 hl
    unfold eraseEntry
    by_cases h : k' = key
    · subst h
      by_cases hk : k = k'
      · subst hk
        have hnone := (@get?_eq_none_iff α ⟨rest, hnd.2⟩ k).2 hnd.1
        simpa [get?] using hnone
      · have hk' : k' ≠ k := fun e => hk e.symm
        simp [findEntry, hk, hk']
    · rw [if_neg h]
      simp only [findEntry, ih hnd.2]
      by_cases hk : k' = k
      · subst hk; simp [h]
      · simp [hk]

/-- A change keeps whatever it does not touch in the values. -/
theorem map_get?_modify {β : Type} {g : α → β} {f : α → α} (h : ∀ a, g (f a) = g a) (t : Table α)
    (key k : String) : ((t.modify key f).get? k).map g = (t.get? k).map g := by
  rw [get?_modify]
  split
  · rw [Option.map_map, show g ∘ f = g from funext h]
  · rfl

/-! ### Entries and look-up -/

/-- The key of the first entry is none of the later keys. -/
private theorem fst_ne_of_mem {head entry : String × α} {rest : List (String × α)}
    (hl : ((head :: rest).map Prod.fst).Nodup) (h : entry ∈ rest) : entry.1 ≠ head.1 := by
  intro heq
  exact (List.nodup_cons.1 hl).1 (heq ▸ List.mem_map_of_mem h)

/-- When no key occurs twice, no earlier entry can hide one. -/
private theorem findEntry_eq_some_of_mem {key : String} {a : α} {l : List (String × α)}
    (hl : (l.map Prod.fst).Nodup) (h : (key, a) ∈ l) : findEntry key l = some a := by
  induction l with
  | nil => cases h
  | cons head rest ih =>
    obtain ⟨k, b⟩ := head
    rcases List.mem_cons.1 h with heq | h
    · cases heq
      simp [findEntry]
    · have hne : k ≠ key := (fst_ne_of_mem hl h).symm
      simp only [findEntry, if_neg hne]
      exact ih (List.nodup_cons.1 hl).2 h

/-- What is found stands in the list. -/
private theorem mem_of_findEntry_eq_some {key : String} {a : α} {l : List (String × α)}
    (h : findEntry key l = some a) : (key, a) ∈ l := by
  induction l with
  | nil => cases h
  | cons head rest ih =>
    obtain ⟨k, b⟩ := head
    unfold findEntry at h
    split at h
    · next hk => cases h; exact hk ▸ List.mem_cons_self
    · exact List.mem_cons_of_mem _ (ih h)

/-- Entries are what is found under their keys. -/
theorem mem_entries_iff {t : Table α} {key : String} {a : α} :
    (key, a) ∈ t.entries ↔ t.get? key = some a :=
  ⟨findEntry_eq_some_of_mem t.nodup, mem_of_findEntry_eq_some⟩

/-- Every value is found under some key. -/
theorem mem_values_iff {t : Table α} {a : α} : a ∈ t.values ↔ ∃ key, t.get? key = some a := by
  simp only [values, List.mem_map, ← mem_entries_iff, Prod.exists, exists_eq_right]

/-- Something is found under keys only. -/
theorem mem_keys_of_get? {t : Table α} {key : String} {a : α} (h : t.get? key = some a) :
    key ∈ t.keys :=
  get?_isSome_iff.1 (by simp [h])

/-- A new key and its value come last. -/
theorem entries_insert {t : Table α} {key : String} (h : key ∉ t.keys) (a : α) :
    (t.insert key a).entries = t.entries ++ [(key, a)] := by
  obtain ⟨l, hl⟩ := t
  simp only [keys, insert] at h ⊢
  clear hl
  induction l with
  | nil => rfl
  | cons head rest ih =>
    obtain ⟨k, b⟩ := head
    simp only [List.map_cons, List.mem_cons, not_or] at h
    have hne : k ≠ key := fun e => h.1 e.symm
    simp only [insertEntry, if_neg hne, ih h.2, List.cons_append]

/-- The other entries keep their order and their values. -/
theorem entries_erase (t : Table α) (key : String) :
    (t.erase key).entries = t.entries.filter fun entry => entry.1 ≠ key := by
  obtain ⟨l, hl⟩ := t
  simp only [erase]
  induction l with
  | nil => rfl
  | cons head rest ih =>
    obtain ⟨k, b⟩ := head
    unfold eraseEntry
    by_cases hk : k = key
    · subst hk
      have hrest : rest.filter (fun entry => decide (entry.1 ≠ k)) = rest :=
        List.filter_eq_self.2 fun entry hentry => decide_eq_true (fst_ne_of_mem hl hentry)
      rw [if_pos rfl, List.filter_cons_of_neg (by simp), hrest]
    · rw [if_neg hk, List.filter_cons_of_pos (by simpa using hk), ih (List.nodup_cons.1 hl).2]

/-- All entries stay in place, and the value under the key is changed. -/
theorem entries_modify (t : Table α) (key : String) (f : α → α) :
    (t.modify key f).entries =
      t.entries.map fun entry => (entry.1, if entry.1 = key then f entry.2 else entry.2) := by
  obtain ⟨l, hl⟩ := t
  simp only [modify]
  induction l with
  | nil => rfl
  | cons head rest ih =>
    obtain ⟨k, b⟩ := head
    unfold modifyEntry
    by_cases hk : k = key
    · subst hk
      have hrest :
          rest.map (fun entry => (entry.1, if entry.1 = k then f entry.2 else entry.2)) = rest := by
        refine (List.map_congr_left fun entry hentry => ?_).trans (List.map_id rest)
        rw [if_neg (fst_ne_of_mem hl hentry), id]
      rw [if_pos rfl, List.map_cons, hrest, if_pos rfl]
    · rw [if_neg hk, List.map_cons, ih (List.nodup_cons.1 hl).2, if_neg hk]

end Table

end ClusterGraph
