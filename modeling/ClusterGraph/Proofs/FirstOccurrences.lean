import Mathlib.Data.List.Induction
import Mathlib.Data.List.Nodup

/-!
# First occurrences

The build puts ids and edges behind those that are there, unless they are there already. So what a
list of them adds is the list without those that were there, each one where it is met first
(`foldl_append_new`).
-/

namespace ClusterGraph

variable {α : Type} [DecidableEq α] {l : List α} {a : α}

/-- What has been there counts where it was first. -/
theorem eraseDups_append_of_mem (h : a ∈ l) : (l ++ [a]).eraseDups = l.eraseDups := by
  have hold : [a].removeAll l = [] := by simp [List.removeAll, h]
  rw [List.eraseDups_append, hold]
  exact List.append_nil _

theorem eraseDups_append_of_not_mem (h : a ∉ l) : (l ++ [a]).eraseDups = l.eraseDups ++ [a] := by
  have hnew : [a].removeAll l = [a] := by simp [List.removeAll, h]
  rw [List.eraseDups_append, hnew]
  rfl

/-- What values add to a list, with one value more: this one is added last if it is new. -/
theorem filter_eraseDups_append (l values : List α) (a : α) :
    (values ++ [a]).eraseDups.filter (· ∉ l) =
      if a ∈ l ++ values.eraseDups.filter (· ∉ l) then values.eraseDups.filter (· ∉ l)
      else values.eraseDups.filter (· ∉ l) ++ [a] := by
  by_cases ha : a ∈ values
  · have hmem : a ∈ l ++ values.eraseDups.filter (· ∉ l) := by
      by_cases hl : a ∈ l <;> simp [hl, ha]
    rw [eraseDups_append_of_mem ha, if_pos hmem]
  · rw [eraseDups_append_of_not_mem ha, List.filter_append]
    by_cases hl : a ∈ l <;> simp [hl, ha]

/-- Putting values last unless they are there already puts those that are new behind the others,
each where it comes first. -/
theorem foldl_append_new (l values : List α) :
    values.foldl (fun l a => if a ∈ l then l else l ++ [a]) l =
      l ++ values.eraseDups.filter (· ∉ l) := by
  induction values using List.reverseRecOn with
  | nil => exact (List.append_nil l).symm
  | append_singleton values a ih =>
    rw [List.foldl_append, ih, List.foldl_cons, List.foldl_nil, filter_eraseDups_append]
    split
    · rfl
    · exact List.append_assoc _ _ _

/-- No value is kept twice. -/
theorem nodup_eraseDups (l : List α) : l.eraseDups.Nodup := by
  induction l using List.reverseRecOn with
  | nil => exact List.nodup_nil
  | append_singleton l a ih =>
    by_cases ha : a ∈ l
    · rwa [eraseDups_append_of_mem ha]
    · rw [eraseDups_append_of_not_mem ha, List.nodup_append]
      refine ⟨ih, List.nodup_singleton a, fun b hb c hc heq => ?_⟩
      exact ha (List.mem_eraseDups.1 (List.mem_singleton.1 hc ▸ heq ▸ hb))

end ClusterGraph
