/-!
# Pieces between separators

A text is cut into pieces at every occurrence of a character by `List.splitOn`, and
`List.intercalate` puts them together again. No piece holds the separator
(`not_mem_of_mem_splitOn`). What is added to a text without the separator is added to its last piece
(`splitOn_append`), and the last piece is what stands behind the last separator
(`exists_append_of_splitOn`).
-/

namespace ClusterGraph.Text

variable {separator : Char} {cs ds piece : List Char} {pieces : List (List Char)}

/-- Before a separator stands one piece more, which is empty. -/
theorem splitOn_cons_self (separator : Char) (cs : List Char) :
    (separator :: cs).splitOn separator = [] :: cs.splitOn separator :=
  List.splitOn_append_cons_self [] cs

/-- A character other than the separator is put in front of the first piece. -/
theorem splitOn_cons_ne {c : Char} (h : c ≠ separator) (cs : List Char) :
    ∃ first others, cs.splitOn separator = first :: others ∧
      (c :: cs).splitOn separator = (c :: first) :: others := by
  obtain ⟨first, others, heq⟩ := List.exists_cons_of_ne_nil (List.splitOn_ne_nil separator cs)
  refine ⟨first, others, heq, ?_⟩
  rw [List.splitOn_cons_eq_if_modifyHead, if_neg (by simpa using h), heq]
  rfl

/-- No piece holds the separator. -/
theorem not_mem_of_mem_splitOn (h : piece ∈ cs.splitOn separator) : separator ∉ piece := by
  induction cs generalizing piece with
  | nil =>
    obtain rfl : piece = [] := List.mem_singleton.1 h
    exact List.not_mem_nil
  | cons c rest ih =>
    by_cases hc : c = separator
    · subst hc
      rw [splitOn_cons_self] at h
      rcases List.mem_cons.1 h with rfl | h
      · exact List.not_mem_nil
      · exact ih h
    · obtain ⟨first, others, heq, hcons⟩ := splitOn_cons_ne hc rest
      rw [heq] at ih
      rw [hcons] at h
      rcases List.mem_cons.1 h with rfl | h
      · exact fun hmem => (List.mem_cons.1 hmem).elim (fun hsep => hc hsep.symm)
          (ih List.mem_cons_self)
      · exact ih (List.mem_cons_of_mem _ h)

/-- A text without the separator is added to the last piece. -/
theorem splitOn_append (h : separator ∉ ds) (cs : List Char) :
    (cs ++ ds).splitOn separator = (cs.splitOn separator).dropLast ++
      [(cs.splitOn separator).getLast?.getD [] ++ ds] := by
  induction cs with
  | nil => simp [List.splitOn_eq_singleton h]
  | cons c rest ih =>
    by_cases hc : c = separator
    · subst hc
      -- the first piece is empty and is not the last one, to which `ds` is added
      obtain ⟨first, others, heq⟩ := List.exists_cons_of_ne_nil (List.splitOn_ne_nil c rest)
      rw [List.cons_append, splitOn_cons_self, splitOn_cons_self, ih, heq]
      rfl
    · obtain ⟨first, others, heq, hcons⟩ := splitOn_cons_ne hc rest
      obtain ⟨first', others', heq', hcons'⟩ := splitOn_cons_ne hc (rest ++ ds)
      rw [heq', heq] at ih
      rw [List.cons_append, hcons', hcons]
      cases others <;> obtain ⟨rfl, rfl⟩ := List.cons_eq_cons.1 ih <;> rfl

/-- One piece more stands behind one separator more. -/
theorem intercalate_append_singleton (hne : pieces ≠ []) (piece : List Char) :
    [separator].intercalate (pieces ++ [piece]) =
      [separator].intercalate pieces ++ separator :: piece := by
  induction pieces with
  | nil => exact absurd rfl hne
  | cons first others ih =>
    by_cases hothers : others = []
    · subst hothers
      simp
    · have happend : others ++ [piece] ≠ [] := List.append_ne_nil_of_left_ne_nil hothers _
      rw [List.cons_append, List.intercalate_cons_of_ne_nil happend, ih hothers,
        List.intercalate_cons_of_ne_nil hothers]
      simp only [List.append_assoc]

/-- Behind the last separator stands the last piece. -/
theorem exists_append_of_splitOn (h : cs.splitOn separator = pieces ++ [piece])
    (hne : pieces ≠ []) :
    ∃ before, cs = before ++ separator :: piece ∧ before.splitOn separator = pieces := by
  have hfree : ∀ p ∈ pieces, separator ∉ p := fun p hp =>
    not_mem_of_mem_splitOn (h ▸ List.mem_append_left _ hp)
  refine ⟨[separator].intercalate pieces, ?_, List.splitOn_intercalate separator hfree hne⟩
  rw [← intercalate_append_singleton hne, ← h, List.intercalate_splitOn]

end ClusterGraph.Text
