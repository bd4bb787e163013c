import ClusterGraph.Graph
import ClusterGraph.Text.Quoted

/-!
# Diagnostics

What a build reports about the parts of a document that it skips.
-/

namespace ClusterGraph

/-- Why a part of a document was skipped. -/
inductive Diagnostic where
  | unknownStatementKind
  | invalidEdgeEndpoint
  /-- The node of the enclosing subgraph is gone. -/
  | missingScope (id : String)
  /-- A node of the same id as the subgraph that encloses it. -/
  | selfNesting (id : String)
  /-- The graph refused a change. -/
  | rejected (cause : GraphError)
deriving DecidableEq

namespace Diagnostic

/-- The wording of a diagnostic. -/
def message : Diagnostic → String
  | unknownStatementKind => "ignored statement of unknown kind"
  | invalidEdgeEndpoint => "ignored edge endpoint that is neither a node nor a subgraph"
  | missingScope id => "subgraph `" ++ id ++ "` no longer exists; its attributes were dropped"
  | selfNesting id => "node `" ++ id ++ "` cannot be nested inside itself"
  | rejected cause => "graph update rejected: " ++ cause.message

/-- The kind of a diagnostic. -/
def kind : Diagnostic → String
  | unknownStatementKind => "UnknownStatementKind"
  | invalidEdgeEndpoint => "InvalidEdgeEndpoint"
  | missingScope _ => "MissingScope"
  | selfNesting _ => "SelfNesting"
  | rejected _ => "Graph"

/-- The kind of a diagnostic with what it is about. -/
def summary (d : Diagnostic) : String :=
  match d with
  | unknownStatementKind => d.kind
  | invalidEdgeEndpoint => d.kind
  | missingScope id => d.kind ++ "(" ++ Text.quote id ++ ")"
  | selfNesting id => d.kind ++ "(" ++ Text.quote id ++ ")"
  | rejected cause => d.kind ++ "(" ++ Text.quote cause.message ++ ")"

end Diagnostic

end ClusterGraph
