import ClusterGraph.Proofs.Build.Scoping
import Mathlib.Data.List.Infix

/-!
# Opening, closing and setting in any order

Scopes may be opened and closed and defaults be set in any order. What this makes of a stack of
defaults is what it makes of the plain list of its frames, which is never empty
(`Defaults.frames_perform`), and the last frame of the list, the root, is only ever laid over by the
defaults that are set outside all scopes (`Defaults.root_performAll`). Operations that close no more
than they have opened leave the frame in which they start where it was, laid over by what they set
in that scope (`Defaults.performAll_inScope`), so a scope that is opened, filled with balanced
operations and closed leaves no trace (`Defaults.performAll_frames`).
-/

namespace ClusterGraph.Defaults

/-! ### Operations -/

/-- What can be done with a stack of defaults. -/
inductive Operation where
  /-- Opens a scope. -/
  | push
  /-- Closes the innermost scope, if there is one. -/
  | pop
  /-- Sets defaults in the current frame. -/
  | merge (target : AttrTarget) (attrs : Attrs)
deriving DecidableEq

/-- Carries out an operation: the frame that is dropped, if one is, and the stack behind it. -/
def perform (d : Defaults) : Operation → Option DefaultFrame × Defaults
  | .push => (none, d.push)
  | .pop => (d.innermost?, d.pop)
  | .merge target attrs => (none, d.merge target attrs)

/-- The same operations on a list of frames, the innermost first. The last frame stays. -/
def performOn : List DefaultFrame → Operation → Option DefaultFrame × List DefaultFrame
  | frame :: outer, .push => (none, frame :: frame :: outer)
  | frame :: next :: outer, .pop => (some frame, next :: outer)
  | frame :: outer, .merge target attrs => (none, frame.merge target attrs :: outer)
  | frames, _ => (none, frames)

/-- Takes steps one after another: what each of them drops, and what is left at the end. -/
def runAll {σ : Type} (step : σ → Operation → Option DefaultFrame × σ) (s : σ) :
    List Operation → List (Option DefaultFrame) × σ
  | [] => ([], s)
  | op :: rest =>
    let (dropped, s) := step s op
    let (further, s) := runAll step s rest
    (dropped :: further, s)

/-- Carries out operations one after another. -/
abbrev performAll (d : Defaults) (ops : List Operation) : List (Option DefaultFrame) × Defaults :=
  runAll perform d ops

/-- The frames of a stack, the innermost first and the root last. -/
def frames (d : Defaults) : List DefaultFrame := d.scopes ++ [d.root]

/-- The number of open scopes behind an operation. -/
def openBehind (scopes : Nat) : Operation → Nat
  | .push => scopes + 1
  | .pop => scopes - 1
  | .merge _ _ => scopes

/-- The defaults that operations set in the frame on which so many others lie at first. -/
def assignmentsAt (above : Nat) : List Operation → Assignments
  | [] => []
  | .merge target attrs :: rest =>
    if above = 0 then (target, attrs) :: assignmentsAt 0 rest else assignmentsAt above rest
  | op :: rest => assignmentsAt (openBehind above op) rest

/-- As many scopes are closed as are opened, and none is closed that has not been opened before. -/
structure Balanced (ops : List Operation) : Prop where
  closed : ops.count .pop = ops.count .push
  opened : ∀ start, start <+: ops → start.count .pop ≤ start.count .push

variable (d : Defaults) (ops : List Operation)

/-! ### Frames -/

theorem length_frames : d.frames.length = d.depth := by
  rw [frames, List.length_append]
  rfl

theorem getLast?_frames : d.frames.getLast? = some d.root := List.getLast?_concat

/-- An operation drops the same frame of a stack and of the list of its frames, and leaves the
same. -/
theorem frames_perform (op : Operation) :
    ((d.perform op).1, (d.perform op).2.frames) = performOn d.frames op := by
  obtain ⟨root, _ | ⟨frame, _ | ⟨next, outer⟩⟩⟩ := d <;> cases op <;> rfl

theorem frames_performAll :
    ((d.performAll ops).1, (d.performAll ops).2.frames) = runAll performOn d.frames ops := by
  induction ops generalizing d with
  | nil => rfl
  | cons op ops ih => simp only [runAll, ← frames_perform, ← ih]

theorem length_scopes_perform (op : Operation) :
    (d.perform op).2.scopes.length = openBehind d.scopes.length op := by
  obtain ⟨root, _ | ⟨frame, outer⟩⟩ := d <;> cases op <;> rfl

theorem length_scopes_performAll :
    (d.performAll ops).2.scopes.length = ops.foldl openBehind d.scopes.length := by
  induction ops generalizing d with
  | nil => rfl
  | cons op ops ih =>
    rw [List.foldl_cons, ← length_scopes_perform, ← ih]
    rfl

/-- The root is laid over by what is set while no scope is open, and by nothing else. -/
theorem root_performAll :
    (d.performAll ops).2.root = d.root.mergeAll (assignmentsAt d.scopes.length ops) := by
  induction ops generalizing d with
  | nil => rfl
  | cons op ops ih =>
    have hrest := ih (d.perform op).2
    rw [length_scopes_perform] at hrest
    refine hrest.trans ?_
    obtain ⟨root, _ | ⟨frame, outer⟩⟩ := d <;> cases op <;> rfl

/-! ### Scopes -/

/-- No scope is closed that was not among so many open ones and has not been opened before. -/
def Covers (scopes : Nat) (ops : List Operation) : Prop :=
  ∀ start, start <+: ops → start.count .pop ≤ scopes + start.count .push

section Covers

variable {scopes : Nat} {op : Operation} {ops : List Operation}

/-- A scope that is closed at first is one of those that are open. -/
theorem Covers.pos (h : Covers scopes (.pop :: ops)) : 0 < scopes :=
  h [.pop] (List.prefix_append [.pop] ops)

theorem Covers.tail (h : Covers scopes (op :: ops)) : Covers (openBehind scopes op) ops := by
  intro start hstart
  have hcons := h (op :: start) (List.cons_prefix_cons.2 ⟨rfl, hstart⟩)
  cases op with
  | push =>
    simp [openBehind] at hcons ⊢
    omega
  | pop =>
    have hpos := h.pos
    simp [openBehind] at hcons ⊢
    omega
  | merge target attrs => simpa [openBehind] using hcons

end Covers

/-- Operations that close none of the scopes below a frame, nor its own, lay over the frame what
they set in its scope, and leave what lies below it. -/
theorem performAll_inScope (root frame : DefaultFrame) (outer inner : List DefaultFrame)
    {ops : List Operation} (hops : Covers inner.length ops) :
    ∃ inner' : List DefaultFrame,
      inner'.length + ops.count .pop = inner.length + ops.count .push ∧
      (performAll ⟨root, inner ++ frame :: outer⟩ ops).2 =
        ⟨root, inner' ++ frame.mergeAll (assignmentsAt inner.length ops) :: outer⟩ := by
  induction ops generalizing inner frame with
  | nil => exact ⟨inner, rfl, rfl⟩
  | cons op ops ih =>
    have htail := hops.tail
    cases op with
    | push =>
      -- what is opened inside the scope is one more frame in `inner`
      have hpushed := ih frame ((inner ++ frame :: outer).headD root :: inner) htail
      obtain ⟨inner', hcount, hrun⟩ := hpushed
      refine ⟨inner', ?_, hrun⟩
      simp only [List.length_cons] at hcount
      simp
      omega
    | pop =>
      -- the scope itself stays open, so a frame inside it is the one that is dropped
      obtain ⟨top, inner, rfl⟩ := List.exists_cons_of_length_pos hops.pos
      obtain ⟨inner', hcount, hrun⟩ := ih frame inner htail
      refine ⟨inner', ?_, hrun⟩
      simp
      omega
    | merge target attrs =>
      cases inner with
      | nil =>
        -- set in the scope itself
        obtain ⟨inner', hcount, hrun⟩ := ih (frame.merge target attrs) [] htail
        exact ⟨inner', by simpa using hcount, hrun⟩
      | cons top inner =>
        -- set further inside
        obtain ⟨inner', hcount, hrun⟩ := ih frame (top.merge target attrs :: inner) htail
        exact ⟨inner', by simpa using hcount, hrun⟩

/-- However scopes are opened and closed and defaults are set, a stack of defaults is the list of
its frames: what is dropped and what is left is the same. The last frame is the root, which is only
laid over by what is set outside all scopes, and outside all scopes nothing is dropped. A scope that
is opened, filled with balanced operations and closed leaves the stack as it was, and drops the
frame that was in force before, laid over by what is set in the scope itself. -/
theorem performAll_frames :
    (∀ (d : Defaults) (ops : List Operation),
      ((d.performAll ops).1, (d.performAll ops).2.frames) = runAll performOn d.frames ops ∧
      (d.performAll ops).2.frames.getLast? =
        some (d.root.mergeAll (assignmentsAt d.scopes.length ops)) ∧
      (d.performAll ops).2.frames.length = (d.performAll ops).2.depth ∧
      (d.performAll ops).2.depth = 1 + ops.foldl openBehind d.scopes.length) ∧
    (∀ d : Defaults, d.depth = 1 → d.perform .pop = (none, d)) ∧
    ∀ (d : Defaults) (ops : List Operation), Balanced ops →
      (d.performAll (.push :: ops)).2.perform .pop =
        (some (d.current.mergeAll (assignmentsAt 0 ops)), d) := by
  refine ⟨fun d ops => ⟨d.frames_performAll ops, ?_, length_frames _, ?_⟩, fun d hd => ?_,
    fun d ops hops => ?_⟩
  · rw [getLast?_frames, root_performAll]
  · rw [← length_scopes_performAll, Nat.add_comm]
    rfl
  · obtain ⟨root, _ | ⟨frame, outer⟩⟩ := d
    · rfl
    · exact absurd hd (by simp [depth])
  · obtain ⟨inner, hcount, hrun⟩ := performAll_inScope d.root d.current d.scopes []
      fun start hstart => Nat.le_add_left_of_le (hops.opened start hstart)
    -- balanced operations leave none of their own frames
    have hinner : inner = [] := by
      have hclosed := hops.closed
      rw [List.length_nil] at hcount
      exact List.length_eq_zero_iff.1 (by omega)
    subst hinner
    change (performAll d.push ops).2.perform .pop = _
    rw [show d.push = ⟨d.root, [] ++ d.current :: d.scopes⟩ from rfl, hrun]
    rfl

/-- Defaults for nodes that are set twice, with a scope between in which others are set. -/
def aroundScope : List Operation :=
  [.merge .node (Attrs.ofPairs [("shape", "box"), ("color", "red")]), .push,
    .merge .node (Attrs.ofPairs [("color", "blue")]),
    .merge .edge (Attrs.ofPairs [("dir", "both")]), .pop,
    .merge .node (Attrs.ofPairs [("shape", "oval")])]

/-- At the top nothing is dropped, and a scope with `aroundScope` in it drops what was set in the
scope itself and leaves no defaults. -/
theorem performAll_frames_aroundScope : empty.depth = 1 ∧ empty.perform .pop = (none, empty) ∧
    Balanced aroundScope ∧ (empty.performAll (.push :: aroundScope)).2.perform .pop =
      (some ⟨Attrs.ofPairs [("color", "red"), ("shape", "oval")], Attrs.empty, Attrs.empty⟩,
        empty) := by
  have hbalanced : Balanced aroundScope :=
    ⟨by decide, fun start hstart => by
      have hall : ∀ start ∈ aroundScope.inits, start.count .pop ≤ start.count .push := by decide
      exact hall start ((List.mem_inits start aroundScope).2 hstart)⟩
  exact ⟨rfl, performAll_frames.2.1 empty rfl, hbalanced,
    (performAll_frames.2.2 empty aroundScope hbalanced).trans (by decide +kernel)⟩

end ClusterGraph.Defaults
