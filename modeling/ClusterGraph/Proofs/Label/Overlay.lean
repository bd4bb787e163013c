import ClusterGraph.Label
import Mathlib.Data.List.Sort

/-!
# Laying attributes and points over each other

What is merged into a label later is laid over what was there: name by name for attributes
(`Attrs.get?_overlay`), position by position for points, and as a whole for a placement. So whatever
has been merged and is merged once more leaves no trace of its first time
(`PlacedLabel.merge_merge_merge`, `EdgeLabel.merge_merge_merge`); merging the same twice in a row is
a case of this.
-/

namespace ClusterGraph

namespace Attrs

/-! ### Attributes by name -/

/-- In a list without repeated names the value of a name is the one that is listed with it. -/
private theorem lookup_eq_some_iff {l : List (String × String)}
    (h : l.Pairwise fun a b => a.1 ≠ b.1) {key value : String} :
    l.lookup key = some value ↔ (key, value) ∈ l := by
  induction l with
  | nil => simp
  | cons head rest ih =>
    obtain ⟨k, v⟩ := head
    have hrest := List.pairwise_cons.1 h
    by_cases hk : key = k
    · subst hk
      have hnot : (key, value) ∉ rest := fun hmem => hrest.1 _ hmem rfl
      simp [hnot, eq_comm]
    · simp [List.lookup_cons, beq_eq_false_iff_ne.2 hk, hk, ih hrest.2]

private theorem pairwise_ne (attrs : Attrs) : attrs.entries.Pairwise fun a b => a.1 ≠ b.1 := by
  refine attrs.sorted.imp fun hlt heq => ?_
  rw [heq] at hlt
  exact String.lt_irrefl _ hlt

/-- Entries are what is found under their names. -/
theorem mem_entries_iff {attrs : Attrs} {key value : String} :
    (key, value) ∈ attrs.entries ↔ attrs.get? key = some value :=
  (lookup_eq_some_iff attrs.pairwise_ne).symm

/-- Attributes that have the same values are the same. -/
theorem ext_get? {a b : Attrs} (h : ∀ key, a.get? key = b.get? key) : a = b := by
  have hirrefl : Std.Irrefl fun a b : String × String => a.1 < b.1 :=
    ⟨fun _ => String.lt_irrefl _⟩
  have hantisymm : Std.Antisymm fun a b : String × String => a.1 < b.1 :=
    ⟨fun _ _ hab hba => absurd (String.lt_trans hab hba) (String.lt_irrefl _)⟩
  have hentries : a.entries = b.entries :=
    List.Pairwise.eq_of_mem_iff a.sorted b.sorted fun ⟨key, value⟩ => by
      rw [mem_entries_iff, mem_entries_iff, h]
  cases a
  cases b
  cases hentries
  rfl

/-- A name has the value that is laid over it, or else its old one. -/
theorem get?_overlay (attrs other : Attrs) (key : String) :
    (attrs.overlay other).get? key = (other.get? key).or (attrs.get? key) := by
  have hreverse : other.entries.reverse.lookup key = other.get? key := by
    refine Option.ext fun value => ?_
    have hpairwise : other.entries.reverse.Pairwise fun a b => a.1 ≠ b.1 :=
      List.pairwise_reverse.2 (other.pairwise_ne.imp Ne.symm)
    rw [lookup_eq_some_iff hpairwise, List.mem_reverse]
    exact mem_entries_iff
  rw [overlay, get?_insertAll, hreverse]

/-- Of attributes that are laid over others twice, the second time counts. -/
theorem overlay_overlay_overlay (attrs a b : Attrs) :
    ((attrs.overlay a).overlay b).overlay a = (attrs.overlay b).overlay a := by
  refine ext_get? fun key => ?_
  simp only [get?_overlay]
  cases a.get? key <;> rfl

end Attrs

/-! ### Points by position -/

/-- Points that are laid over nothing stand alone. -/
theorem nil_overlayPoints (new : List Point) : overlayPoints [] new = new := by
  cases new <;> rfl

/-- Nothing is changed when no points are laid over. -/
theorem overlayPoints_nil (old : List Point) : overlayPoints old [] = old := by
  cases old <;> rfl

/-- Of points that are laid over others twice, the second time counts. -/
theorem overlayPoints_overlayPoints_overlayPoints (old p q : List Point) :
    overlayPoints (overlayPoints (overlayPoints old p) q) p =
      overlayPoints (overlayPoints old q) p := by
  induction p generalizing old q with
  | nil => simp only [overlayPoints_nil]
  | cons first p ih =>
    -- the first position holds `first`, whatever was there, and the others go on in the same way
    cases q with
    | nil =>
      have hrest := ih old.tail []
      simp only [overlayPoints_nil] at hrest ⊢
      cases old <;> simpa [overlayPoints, nil_overlayPoints] using hrest
    | cons _ q =>
      have hrest := ih old.tail q
      cases old <;> simpa [overlayPoints, nil_overlayPoints] using hrest

/-! ### Labels -/

namespace PlacedLabel

variable (label : PlacedLabel) (attrs attrs' : Attrs) (geometry geometry' : Option Geometry)

/-- What is merged once more, with another merge in between, counts the second time only. -/
theorem merge_merge_merge :
    ((label.merge attrs geometry).merge attrs' geometry').merge attrs geometry =
      (label.merge attrs' geometry').merge attrs geometry := by
  simp only [merge, Attrs.overlay_overlay_overlay, PlacedLabel.mk.injEq, true_and]
  cases geometry <;> rfl

/-- What is merged twice in a row counts once. -/
theorem merge_merge_self : (label.merge attrs geometry).merge attrs geometry =
    label.merge attrs geometry :=
  label.merge_merge_merge attrs Attrs.empty geometry none

end PlacedLabel

namespace EdgeLabel

variable (label : EdgeLabel) (attrs attrs' : Attrs) (points points' : Option (List Point))

/-- What is merged once more, with another merge in between, counts the second time only. -/
theorem merge_merge_merge :
    ((label.merge attrs points).merge attrs' points').merge attrs points =
      (label.merge attrs' points').merge attrs points := by
  simp only [merge, Attrs.overlay_overlay_overlay, EdgeLabel.mk.injEq, true_and]
  cases points with
  | none => rfl
  | some p =>
    cases points' with
    | none =>
      have htwice := overlayPoints_overlayPoints_overlayPoints (label.points.getD []) p []
      simpa only [overlayPoints_nil, Option.getD_some, Option.some.injEq] using htwice
    | some q => simp only [Option.getD_some, overlayPoints_overlayPoints_overlayPoints]

/-- What is merged twice in a row counts once. -/
theorem merge_merge_self : (label.merge attrs points).merge attrs points =
    label.merge attrs points :=
  label.merge_merge_merge attrs Attrs.empty points none

end EdgeLabel

end ClusterGraph
