/-!
# Attribute mappings

An `Attrs` maps attribute names to values, both texts. It is kept as a list of entries whose
names strictly increase, so two mappings with the same entries are equal and listing one in
name order costs nothing. Names are compared by their code points.

`Attrs.insert` sets one entry and `Attrs.overlay` sets all entries of a second mapping, later
entries winning. The laws of this module read both through `Attrs.get?`: `get?_insert` and
`get?_insertAll`.
-/

namespace ClusterGraph

/-- A mapping from attribute names to values, listed by strictly increasing name. -/
structure Attrs where
  /-- The entries, by increasing name. -/
  entries : List (String × String)
  /-- Every name is below the names after it. -/
  sorted : entries.Pairwise fun a b => a.1 < b.1
deriving DecidableEq

namespace Attrs

/-! ### Entries in name order -/

/-- Sets `key` to `value` in a list of entries, at the place its name belongs to. -/
def insertEntry (key value : String) : List (String × String) → List (String × String)
  | [] => [(key, value)]
  | (k, v) :: rest =>
    if key < k then (key, value) :: (k, v) :: rest
    else if key = k then (key, value) :: rest
    else (k, v) :: insertEntry key value rest

private theorem mem_insertEntry {key value : String} {e : String × String}
    {l : List (String × String)} (h : e ∈ insertEntry key value l) : e = (key, value) ∨ e ∈ l := by
  induction l with
  | nil => exact .inl (List.mem_singleton.1 h)
  | cons head rest ih =>
    obtain ⟨k, v⟩ := head
    unfold insertEntry at h
    split at h
    · rcases List.mem_cons.1 h with h | h
      · exact .inl h
      · exact .inr h
    · split at h
      · rcases List.mem_cons.1 h with h | h
        · exact .inl h
        · exact .inr (List.mem_cons_of_mem _ h)
      · rcases List.mem_cons.1 h with h | h
        · exact .inr (h ▸ List.mem_cons_self)
        · rcases ih h with h | h
          · exact .inl h
          · exact .inr (List.mem_cons_of_mem _ h)

theorem lt_of_not_lt_of_ne {a b : String} (h : ¬ a < b) (hne : a ≠ b) : b < a := by
  rcases Std.Trichotomous.rel_or_eq_or_rel_swap (r := (· < · : String → String → Prop))
    (a := a) (b := b) with h' | h' | h'
  · exact absurd h' h
  · exact absurd h' hne
  · exact h'

theorem pairwise_insertEntry {key value : String} {l : List (String × String)}
    (h : l.Pairwise fun a b => a.1 < b.1) :
    (insertEntry key value l).Pairwise fun a b => a.1 < b.1 := by
  induction l with
  | nil => exact List.pairwise_singleton _ _
  | cons head rest ih =>
    obtain ⟨k, v⟩ := head
    have hrest := List.pairwise_cons.1 h
    unfold insertEntry
    split
    · next hlt =>
      refine List.pairwise_cons.2 ⟨fun e he => ?_, h⟩
      rcases List.mem_cons.1 he with rfl | he
      · exact hlt
      · exact String.lt_trans hlt (hrest.1 e he)
    · next hnlt =>
      split
      · next heq => exact List.pairwise_cons.2 ⟨fun e he => heq ▸ hrest.1 e he, hrest.2⟩
      · next hne =>
        refine List.pairwise_cons.2 ⟨fun e he => ?_, ih hrest.2⟩
        -- the new name is above `k`, since it was neither below it nor equal to it
        rcases mem_insertEntry he with rfl | he
        · exact lt_of_not_lt_of_ne hnlt hne
        · exact hrest.1 e he

/-! ### The mapping -/

/-- The mapping without entries. -/
def empty : Attrs := ⟨[], List.Pairwise.nil⟩

instance : Inhabited Attrs := ⟨empty⟩

/-- The value of `key`, if it has one. -/
def get? (attrs : Attrs) (key : String) : Option String := attrs.entries.lookup key

/-- Sets `key` to `value`, whether or not it had a value. -/
def insert (attrs : Attrs) (key value : String) : Attrs :=
  ⟨insertEntry key value attrs.entries, pairwise_insertEntry attrs.sorted⟩

/-- Sets the given pairs one after another, so the last value of a name wins. -/
def insertAll (attrs : Attrs) (pairs : List (String × String)) : Attrs :=
  pairs.foldl (fun acc pair => acc.insert pair.1 pair.2) attrs

/-- The mapping of the given pairs; the last value of a name wins. -/
def ofPairs (pairs : List (String × String)) : Attrs := empty.insertAll pairs

/-- `attrs` with every entry of `other` set on top of it. -/
def overlay (attrs other : Attrs) : Attrs := attrs.insertAll other.entries

/-! ### Laws of the look-up -/

@[simp] theorem get?_empty (key : String) : empty.get? key = none := rfl

private theorem lookup_insertEntry (key value k : String) (l : List (String × String)) :
    (insertEntry key value l).lookup k = if k = key then some value else l.lookup k := by
  induction l with
  | nil =>
    by_cases h : k = key
    · simp [insertEntry, h]
    · simp [insertEntry, List.lookup_cons, h, beq_eq_false_iff_ne.2 h]
  | cons head rest ih =>
    obtain ⟨k', v⟩ := head
    unfold insertEntry
    by_cases h : k = key
    · subst h
      split
      · simp
      · split
        · simp
        · next hne => simp [List.lookup_cons, beq_eq_false_iff_ne.2 hne, ih]
    · have hb := beq_eq_false_iff_ne.2 h
      split
      · simp [List.lookup_cons, hb]
      · split
        · next heq => subst heq; simp [List.lookup_cons, hb]
        · simp [List.lookup_cons, h, ih]

/-- Setting an entry changes the value of its own name and of no other. -/
theorem get?_insert (attrs : Attrs) (key value k : String) :
    (attrs.insert key value).get? k = if k = key then some value else attrs.get? k :=
  lookup_insertEntry key value k attrs.entries

/-- After setting pairs in turn a name has its last value among them, or else its old one. -/
theorem get?_insertAll (attrs : Attrs) (pairs : List (String × String)) (k : String) :
    (attrs.insertAll pairs).get? k = (pairs.reverse.lookup k).or (attrs.get? k) := by
  induction pairs generalizing attrs with
  | nil => simp [insertAll]
  | cons pair rest ih =>
    have hstep : attrs.insertAll (pair :: rest) = (attrs.insert pair.1 pair.2).insertAll rest := rfl
    rw [hstep, ih, get?_insert, List.reverse_cons, List.lookup_append, Option.or_assoc]
    congr 1
    obtain ⟨key, value⟩ := pair
    by_cases h : k = key
    · simp [h]
    · simp [List.lookup_cons, h, beq_eq_false_iff_ne.2 h]

end Attrs

end ClusterGraph
