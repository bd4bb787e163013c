import ClusterGraph.Main
import ClusterGraph.Proofs.Graph.EdgeKey
import ClusterGraph.Proofs.Graph.View
import ClusterGraph.Proofs.Graph.Nesting
import ClusterGraph.Proofs.Graph.Links
import ClusterGraph.Proofs.Graph.Removal
import ClusterGraph.Proofs.Build.Actions
import ClusterGraph.Proofs.Build.PlainIds
import ClusterGraph.Proofs.Build.Steps
import ClusterGraph.Proofs.Build.Consistency
import ClusterGraph.Proofs.Build.EdgeNames
import ClusterGraph.Proofs.Build.Forest
import ClusterGraph.Proofs.Build.Scoping
import ClusterGraph.Proofs.Defaults.Frames
import ClusterGraph.Proofs.Graph.Outline
import ClusterGraph.Proofs.Build.Sketch
import ClusterGraph.Proofs.Build.Skeleton
import ClusterGraph.Proofs.Build.Agreement
import ClusterGraph.Proofs.Build.NamedScopes
import ClusterGraph.Proofs.Build.Strictness
import ClusterGraph.Proofs.Build.Keeping
import ClusterGraph.Proofs.Build.LinkSequence
import ClusterGraph.Proofs.Build.NodeSequence
import ClusterGraph.Proofs.Build.EndOrder
import ClusterGraph.Proofs.Graph.NodeIds
import ClusterGraph.Proofs.Build.AddedNodes
import ClusterGraph.Proofs.Build.FreshIds
import ClusterGraph.Proofs.Build.Creation
import ClusterGraph.Proofs.Label.Overlay
import ClusterGraph.Proofs.Label.Merging
import ClusterGraph.Proofs.Graph.Patches
import ClusterGraph.Proofs.Build.Absorption
import ClusterGraph.Proofs.Build.Repetition
import ClusterGraph.Proofs.Build.ChainParts
import ClusterGraph.Proofs.Build.Balance
import ClusterGraph.Proofs.Build.NestedScopes
import ClusterGraph.Proofs.Build.OpenNodes
import ClusterGraph.Proofs.Build.HollowSubgraphs
import ClusterGraph.Proofs.Build.EmptyScopes
import ClusterGraph.Proofs.Build.UnknownStatements
import ClusterGraph.Proofs.Build.GraphLabel
import ClusterGraph.Proofs.Json.Sequences
import ClusterGraph.Proofs.Json.Starts
import ClusterGraph.Proofs.Json.Strings
import ClusterGraph.Proofs.Json.Blanks
import ClusterGraph.Proofs.Json.ReadBack
import ClusterGraph.Proofs.Statement.ReadBack
import ClusterGraph.Proofs.Statement.Slots
import ClusterGraph.Proofs.Statement.Forms
import ClusterGraph.Proofs.Document.ReadBack
import ClusterGraph.Proofs.Document.Forms
import ClusterGraph.Proofs.Json5.Strings
import ClusterGraph.Proofs.Json5.ReadBack
import ClusterGraph.Proofs.Document.Json5ReadBack
import ClusterGraph.Proofs.Document.Separators
import ClusterGraph.Proofs.CommandLine.FileFormats
import ClusterGraph.Proofs.FirstOccurrences
import ClusterGraph.Proofs.Statement.Traversal
import ClusterGraph.Proofs.Build.NodeRemoval
import ClusterGraph.Proofs.Build.StrictLinks
import ClusterGraph.Proofs.CommandLine.AllOrNothing
import ClusterGraph.Proofs.Build.GeneratedNames
import ClusterGraph.Proofs.Build.ShapeReports
import ClusterGraph.Proofs.Decimal.NotANumber
import ClusterGraph.Proofs.Layout.LeadingNumber
import ClusterGraph.Proofs.Layout.Continuations
