import ClusterGraph.Layout
import ClusterGraph.Proofs.Text.Split
import Mathlib.Data.List.Forall2

/-!
# Splines that are broken into lines

Layout programs break long splines into lines, with a line continuation at any column: inside a
number, next to a comma or a space, or several in a row (`Layout.Broken`). The continuations stay in
the pieces between the spaces, whether before a space or behind it (`Layout.Broken.splitOn`), and
are removed from each piece. So breaking a spline changes none of its points
(`Layout.spline_broken`).
-/

namespace ClusterGraph.Layout

/-- A text, and the same text with line continuations put in: any number of them at any place, but
none inside another. -/
inductive Broken : List Char → List Char → Prop where
  | nil : Broken [] []
  | char {cs ds : List Char} (c : Char) (h : Broken cs ds) : Broken (c :: cs) (c :: ds)
  | continuation {cs ds : List Char} (h : Broken cs ds) : Broken cs ('\\' :: '\n' :: ds)

/-- Every text comes from one without line continuations. -/
theorem broken_dropContinuations (ds : List Char) : Broken (dropContinuations ds) ds := by
  fun_induction dropContinuations ds with
  | case1 rest ih => exact .continuation ih
  | case2 c rest _ ih => exact .char c ih
  | case3 => exact .nil

namespace Broken

variable {cs ds : List Char}

/-- Removing the line continuations gives a text without backslashes back. -/
theorem dropContinuations_eq (h : Broken cs ds) (hcs : '\\' ∉ cs) : dropContinuations ds = cs := by
  induction h with
  | nil => rfl
  | char c _ ih =>
    have hc : c ≠ '\\' := fun heq => hcs (heq ▸ List.mem_cons_self)
    rw [dropContinuations, ih fun hmem => hcs (List.mem_cons_of_mem c hmem)]
    exact fun _ heq => absurd heq hc
  | continuation _ ih => exact ih hcs

end Broken

/-- The pieces of a broken text are the pieces of the text, broken. -/
theorem Broken.splitOn {cs ds : List Char} {separator : Char} (h : Broken cs ds)
    (hbackslash : separator ≠ '\\') (hfeed : separator ≠ '\n') :
    List.Forall₂ Broken (cs.splitOn separator) (ds.splitOn separator) := by
  induction h with
  | nil => exact .cons .nil .nil
  | @char cs ds c h ih =>
    by_cases hc : c = separator
    · subst hc
      rw [Text.splitOn_cons_self, Text.splitOn_cons_self]
      exact .cons .nil ih
    · obtain ⟨piece, pieces, heq, hcons⟩ := Text.splitOn_cons_ne hc cs
      obtain ⟨piece', pieces', heq', hcons'⟩ := Text.splitOn_cons_ne hc ds
      rw [heq, heq', List.forall₂_cons] at ih
      rw [hcons, hcons']
      exact .cons (.char c ih.1) ih.2
  | @continuation cs ds h ih =>
    obtain ⟨piece, pieces, heq, hcons⟩ := Text.splitOn_cons_ne hfeed.symm ds
    obtain ⟨piece', pieces', heq', hcons'⟩ := Text.splitOn_cons_ne hbackslash.symm ('\n' :: ds)
    obtain ⟨rfl, rfl⟩ := List.cons_eq_cons.1 (heq'.symm.trans hcons)
    obtain ⟨piece', pieces', hpiece, hpieces, hcs⟩ := List.forall₂_cons_right_iff.1 (heq ▸ ih)
    rw [hcons', hcs]
    exact .cons (.continuation hpiece) hpieces

/-- Pieces without backslashes are found again when the line continuations are removed from each. -/
theorem map_dropContinuations_eq {pieces pieces' : List (List Char)}
    (h : List.Forall₂ Broken pieces pieces') (hpieces : ∀ piece ∈ pieces, '\\' ∉ piece) :
    pieces'.map dropContinuations = pieces := by
  induction h with
  | nil => rfl
  | cons hpiece _ ih =>
    obtain ⟨hfirst, hrest⟩ := List.forall_mem_cons.1 hpieces
    rw [List.map_cons, hpiece.dropContinuations_eq hfirst, ih hrest]

/-- Behind its marker of any two characters, a spline is read as the points of its pieces, one after
another, with their y negated, wherever it is broken. -/
theorem spline_broken (m m' : Char) {tokens : List (List Char)} {body : List Char}
    (hne : tokens ≠ []) (htokens : ∀ token ∈ tokens, ' ' ∉ token ∧ '\\' ∉ token)
    (hbroken : Broken ([' '].intercalate tokens) body) :
    spline (m :: m' :: body) = tokens.map point ∧
      (spline (m :: m' :: body)).map Point.y =
        tokens.map fun token => -numberAt (token.splitOn ',') 1 := by
  have hpieces : List.Forall₂ Broken tokens (body.splitOn ' ') := by
    rw [← List.splitOn_intercalate ' ' (fun token htoken => (htokens token htoken).1) hne]
    exact hbroken.splitOn (by decide) (by decide)
  have hdropped := map_dropContinuations_eq hpieces fun token htoken => (htokens token htoken).2
  have hspline : spline (m :: m' :: body) = tokens.map point := by
    conv_rhs => rw [← hdropped, List.map_map]
    rfl
  refine ⟨hspline, ?_⟩
  rw [hspline, List.map_map]
  rfl

/-- Line continuations in a row, inside a number, before a comma, and on both sides of a space. -/
theorem spline_broken_everywhere :
    let tokens := ["52,36".toList, "27.5,71".toList]
    let body := "\\\n\\\n5\\\n2\\\n,36\\\n \\\n27.\\\n5,71\\\n".toList
    (∀ token ∈ tokens, ' ' ∉ token ∧ '\\' ∉ token) ∧ Broken ([' '].intercalate tokens) body ∧
      spline ('e' :: ',' :: body) = tokens.map point := by
  intro tokens body
  have htokens : ∀ token ∈ tokens, ' ' ∉ token ∧ '\\' ∉ token := by decide
  have hbroken : Broken ([' '].intercalate tokens) body := broken_dropContinuations body
  exact ⟨htokens, hbroken, (spline_broken 'e' ',' (by decide) htokens hbroken).1⟩

end ClusterGraph.Layout
