import ClusterGraph.Attrs

/-!
# Statement trees

A `Document` is a parsed DOT text: its kind, whether it is strict, its optional id, and its
statements. A `Statement` declares a node, a chain of edges, a subgraph, defaults for a kind of
element, or attributes of the enclosing graph; a statement of an unknown kind stays in the tree
so that it can be reported.
-/

namespace ClusterGraph

/-- What default attributes apply to. -/
inductive AttrTarget where
  | node
  | edge
  | graph
deriving DecidableEq, Inhabited

/-- Whether the edges of a document are undirected (`graph`) or directed (`digraph`). -/
inductive GraphKind where
  | graph
  | digraph
deriving DecidableEq, Inhabited

namespace GraphKind

/-- The keyword that opens a document of this kind. -/
def keyword : GraphKind → String
  | graph => "graph"
  | digraph => "digraph"

/-- Only a `digraph` has directed edges. -/
def isDirected : GraphKind → Bool
  | graph => false
  | digraph => true

end GraphKind

/-- The keyword of a target in an attribute statement. -/
def AttrTarget.keyword : AttrTarget → String
  | node => "node"
  | edge => "edge"
  | graph => "graph"

/-- One statement of a document. -/
inductive Statement where
  /-- Declares a node and gives it attributes. -/
  | node (id : String) (attrs : Attrs)
  /-- A chain of edges through its elements; every edge gets the attributes. -/
  | edge (elems : List Statement) (attrs : Attrs)
  /-- A subgraph, anonymous when it has no id. -/
  | subgraph (id : Option String) (stmts : List Statement)
  /-- Default attributes for nodes or edges, or attributes of the enclosing graph. -/
  | attr (target : AttrTarget) (attrs : Attrs)
  /-- Attributes of the enclosing graph, written without a keyword. -/
  | inlineAttr (attrs : Attrs)
  /-- A statement of a kind that is not known. -/
  | unknown
deriving Inhabited

/-- A whole document. -/
structure Document where
  kind : GraphKind
  strict : Bool
  id : Option String
  stmts : List Statement
deriving Inhabited

end ClusterGraph
