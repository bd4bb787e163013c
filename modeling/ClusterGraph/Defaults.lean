import ClusterGraph.Statement

/-!
# Scoped default attributes

Statements such as `node [shape=box]` set defaults for what is created after them in the same
scope. A `Defaults` is a stack of frames: entering a scope pushes a copy of the current frame,
leaving it drops that copy, so inner changes never leak out. The root frame is stored apart and
is never dropped.
-/

namespace ClusterGraph

/-- The defaults in force in one scope. -/
structure DefaultFrame where
  node : Attrs
  edge : Attrs
  graph : Attrs
deriving DecidableEq, Inhabited

namespace DefaultFrame

/-- The frame without defaults. -/
def empty : DefaultFrame := ⟨Attrs.empty, Attrs.empty, Attrs.empty⟩

/-- Overlays the defaults of one target. -/
def merge (frame : DefaultFrame) (target : AttrTarget) (attrs : Attrs) : DefaultFrame :=
  match target with
  | .node => { frame with node := frame.node.overlay attrs }
  | .edge => { frame with edge := frame.edge.overlay attrs }
  | .graph => { frame with graph := frame.graph.overlay attrs }

end DefaultFrame

/-- A stack of default frames above a root frame. -/
structure Defaults where
  root : DefaultFrame
  /-- The frames of the open scopes, the innermost first. -/
  scopes : List DefaultFrame
deriving DecidableEq, Inhabited

namespace Defaults

/-- No scope is open and nothing is set. -/
def empty : Defaults := ⟨DefaultFrame.empty, []⟩

/-- The frame in force: the innermost scope's, or the root's. -/
def current (d : Defaults) : DefaultFrame := d.scopes.headD d.root

/-- The number of frames, the root included. -/
def depth (d : Defaults) : Nat := d.scopes.length + 1

/-- Opens a scope, which starts with a copy of the current frame. -/
def push (d : Defaults) : Defaults := { d with scopes := d.current :: d.scopes }

/-- Closes the innermost scope; the root stays. -/
def pop (d : Defaults) : Defaults := { d with scopes := d.scopes.tail }

/-- The frame that `pop` drops, if a scope is open. -/
def innermost? (d : Defaults) : Option DefaultFrame := d.scopes.head?

/-- Overlays the defaults of one target in the current frame. -/
def merge (d : Defaults) (target : AttrTarget) (attrs : Attrs) : Defaults :=
  match d.scopes with
  | [] => { d with root := d.root.merge target attrs }
  | frame :: outer => { d with scopes := frame.merge target attrs :: outer }

/-! ### Laws -/

@[simp] theorem current_push (d : Defaults) : d.push.current = d.current := rfl

@[simp] theorem depth_push (d : Defaults) : d.push.depth = d.depth + 1 := rfl

@[simp] theorem current_merge (d : Defaults) (target : AttrTarget) (attrs : Attrs) :
    (d.merge target attrs).current = d.current.merge target attrs := by
  obtain ⟨root, _ | ⟨frame, outer⟩⟩ := d <;> rfl

@[simp] theorem depth_merge (d : Defaults) (target : AttrTarget) (attrs : Attrs) :
    (d.merge target attrs).depth = d.depth := by
  obtain ⟨root, _ | ⟨frame, outer⟩⟩ := d <;> rfl

end Defaults

end ClusterGraph
