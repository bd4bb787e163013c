import ClusterGraph.Proofs.Label.Overlay
import Mathlib.Data.List.Induction

/-!
# Merging into the label of an edge

Points laid over others stand in front of what is left of these (`overlayPoints_eq`), which is what
setting them one after another makes of the list (`foldl_setPoint`). Laying over is associative, for
attributes as for points, so merges that follow each other are one merge, and a sequence of merges
that is run once more changes nothing (`EdgeLabel.merge_overlays`). Edges of strict builds rely on
this, whose labels are merged into by every statement that links their ends.
-/

namespace ClusterGraph

/-! ### Attributes -/

namespace Attrs

/-- Attributes can be laid over each other first. -/
theorem overlay_assoc (attrs a b : Attrs) :
    (attrs.overlay a).overlay b = attrs.overlay (a.overlay b) :=
  ext_get? fun key => by simp only [get?_overlay, Option.or_assoc]

end Attrs

/-! ### Points -/

/-- Sets the point at a position, or puts it behind the others when the position is past them. -/
def setPoint (points : List Point) (i : Nat) (p : Point) : List Point :=
  if i < points.length then points.set i p else points ++ [p]

/-- The points that are laid over stand in front, and the rest of the others behind them. -/
theorem overlayPoints_eq (old new : List Point) :
    overlayPoints old new = new ++ old.drop new.length := by
  induction new generalizing old with
  | nil => rw [overlayPoints_nil]; rfl
  | cons p new ih =>
    cases old with
    | nil => rw [nil_overlayPoints, List.drop_nil, List.append_nil]
    | cons _ old => exact congrArg (p :: ·) (ih old)

/-- The next point takes the place of the first of those that are left, or comes last. -/
theorem setPoint_overlayPoints (old new : List Point) (p : Point) :
    setPoint (overlayPoints old new) new.length p = overlayPoints old (new ++ [p]) := by
  rw [overlayPoints_eq, overlayPoints_eq, List.length_append, List.length_singleton,
    ← List.drop_drop, List.append_assoc, setPoint]
  cases old.drop new.length with
  | nil => simp
  | cons first left => simp

/-- Points are laid over others when they are set one after another, each at its position. -/
theorem foldl_setPoint (old new : List Point) :
    new.zipIdx.foldl (fun points p => setPoint points p.2 p.1) old = overlayPoints old new := by
  induction new using List.reverseRecOn with
  | nil => exact (overlayPoints_nil old).symm
  | append_singleton new p ih =>
    rw [List.zipIdx_append, List.foldl_append, ih, List.zipIdx_singleton, List.foldl_cons,
      List.foldl_nil, Nat.zero_add, setPoint_overlayPoints]

/-- There are as many points as in the longer list. -/
theorem length_overlayPoints (old new : List Point) :
    (overlayPoints old new).length = max old.length new.length := by
  rw [overlayPoints_eq, List.length_append, List.length_drop]
  omega

/-- Points can be laid over each other first. -/
theorem overlayPoints_assoc (points p q : List Point) :
    overlayPoints (overlayPoints points p) q = overlayPoints points (overlayPoints p q) := by
  have hcount : p.length + (q.length - p.length) = q.length + (p.length - q.length) := by omega
  simp only [overlayPoints_eq, List.drop_append, List.drop_drop, List.length_append,
    List.length_drop, List.append_assoc, hcount]

/-- Points laid over others, where points may be absent on either side. -/
def overlayPoints? : (old new : Option (List Point)) → Option (List Point)
  | old, none => old
  | none, some new => some new
  | some old, some new => some (overlayPoints old new)

/-- Points can be laid over each other first, also where some are absent. -/
theorem overlayPoints?_assoc (points p q : Option (List Point)) :
    overlayPoints? (overlayPoints? points p) q = overlayPoints? points (overlayPoints? p q) := by
  cases q with
  | none => rfl
  | some q =>
    cases p with
    | none => rfl
    | some p =>
      cases points with
      | none => rfl
      | some points => exact congrArg some (overlayPoints_assoc points p q)

/-! ### Labels -/

namespace EdgeLabel

variable (label : EdgeLabel)

/-- Attributes and points are merged each by themselves. -/
theorem merge_eq (attrs : Attrs) (points : Option (List Point)) : label.merge attrs points =
    ⟨label.attrs.overlay attrs, overlayPoints? label.points points⟩ := by
  obtain ⟨old, _ | q⟩ := label <;> cases points with
  | none => rfl
  | some p =>
    simp only [merge, overlayPoints?, Option.getD_none, Option.getD_some, nil_overlayPoints]

/-- Two merges in a row are one. -/
theorem merge_merge (a₁ a₂ : Attrs) (p₁ p₂ : Option (List Point)) :
    (label.merge a₁ p₁).merge a₂ p₂ = label.merge (a₁.overlay a₂) (overlayPoints? p₁ p₂) := by
  simp only [merge_eq, Attrs.overlay_assoc, overlayPoints?_assoc]

/-- Merges attributes and points one after another. -/
def mergeAll (merges : List (Attrs × Option (List Point))) : EdgeLabel :=
  merges.foldl (fun label m => label.merge m.1 m.2) label

/-- Merges in a row are one merge. -/
theorem exists_merge_eq_mergeAll (merges : List (Attrs × Option (List Point))) :
    ∃ attrs points, ∀ label : EdgeLabel, label.mergeAll merges = label.merge attrs points := by
  induction merges with
  | nil => exact ⟨Attrs.empty, none, fun _ => rfl⟩
  | cons m merges ih =>
    obtain ⟨attrs, points, hmerges⟩ := ih
    exact ⟨m.1.overlay attrs, overlayPoints? m.2 points, fun label =>
      (hmerges _).trans (label.merge_merge m.1 attrs m.2 points)⟩

/-- Two merges in a row are one merge with the attributes and the points of the second laid over
those of the first, where absent points make no difference. So a sequence of merges that is run
again right behind itself changes nothing. When points are merged onto others, each is set at its
position: they stand in front, and what is left of the others stays behind them. -/
theorem merge_overlays :
    (∀ (label : EdgeLabel) (a₁ a₂ : Attrs) (p₁ p₂ : Option (List Point)),
      (label.merge a₁ p₁).merge a₂ p₂ = label.merge (a₁.overlay a₂) (overlayPoints? p₁ p₂)) ∧
    (∀ (label : EdgeLabel) (merges : List (Attrs × Option (List Point))),
      (label.mergeAll merges).mergeAll merges = label.mergeAll merges) ∧
    ∀ (label : EdgeLabel) (attrs : Attrs) (p : List Point), ∃ merged,
      (label.merge attrs (some p)).points = some merged ∧
      p.zipIdx.foldl (fun points p => setPoint points p.2 p.1) (label.points.getD []) = merged ∧
      merged.length = max (label.points.getD []).length p.length ∧
      merged.take p.length = p ∧
      merged.drop p.length = (label.points.getD []).drop p.length := by
  refine ⟨merge_merge, fun label merges => ?_, fun label attrs p => ?_⟩
  · obtain ⟨attrs, points, hmerges⟩ := exists_merge_eq_mergeAll merges
    rw [hmerges, hmerges, merge_merge_self]
  · refine ⟨overlayPoints (label.points.getD []) p, rfl, foldl_setPoint _ p,
      length_overlayPoints _ p, ?_, ?_⟩
    · rw [overlayPoints_eq, List.take_left]
    · rw [overlayPoints_eq, List.drop_left]

end EdgeLabel

end ClusterGraph
