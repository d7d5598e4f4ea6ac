import DotBinding.Main
import DotBinding.Service
import DotBinding.Transform.Recipe
import DotBinding.Proofs.Binding.Lookup
import DotBinding.Proofs.Binding.Chain
import DotBinding.Proofs.Binding.Statements
import DotBinding.Proofs.Binding.Endpoints
import DotBinding.Proofs.Binding.Names
import DotBinding.Proofs.Binding.Failures
import DotBinding.Proofs.Binding.Gaps
import DotBinding.Proofs.Binding.Calls
import DotBinding.Proofs.Dot.Grammar
import DotBinding.Proofs.Dot.Reading
import DotBinding.Proofs.Dot.AttributeReading
import DotBinding.Proofs.Dot.Unambiguity
import DotBinding.Proofs.Dot.FirstFault
import DotBinding.Proofs.Dot.Appending
import DotBinding.Proofs.Dot.Splitting
import DotBinding.Proofs.Dot.Rendering
import DotBinding.Proofs.Template.Wrapping
import DotBinding.Proofs.Cypher.Identifiers
import DotBinding.Proofs.Cypher.Merge
import DotBinding.Proofs.Binding.Formats
import DotBinding.Proofs.Binding.Dependence
import DotBinding.Proofs.Template.Concatenation
import DotBinding.Proofs.Value.Overlay
import DotBinding.Proofs.Binding.Nodes
import DotBinding.Proofs.Binding.Growth
import DotBinding.Proofs.Binding.Naming
import DotBinding.Proofs.Json.Scalars
import DotBinding.Proofs.Json.Reading
import DotBinding.Proofs.Json.LineEnds
import DotBinding.Proofs.Json.Encoding
import DotBinding.Proofs.Template.Tasks
import DotBinding.Proofs.Service.Requests
import DotBinding.Proofs.Value.Dumped
import DotBinding.Proofs.Service.Answers
import DotBinding.Proofs.Json.Nesting
import DotBinding.Proofs.CommandLine.Agreement
import DotBinding.Proofs.Dot.Slices
import DotBinding.Proofs.Dot.Patterns
import DotBinding.Proofs.Dot.Placement
import DotBinding.Proofs.Dot.Spacing
import DotBinding.Proofs.Dot.Slots
import DotBinding.Proofs.Template.Interpolation
import DotBinding.Proofs.Template.History
import DotBinding.Proofs.Dot.Descent
import DotBinding.Proofs.Dot.DescentReading
import DotBinding.Proofs.Dot.WhiteSpace
import DotBinding.Proofs.Binding.Labels
import DotBinding.Proofs.Binding.AbsentItems
import DotBinding.Proofs.Binding.IdentityTransforms
import DotBinding.Proofs.Binding.SingleRecords
import DotBinding.Proofs.Binding.Reversal
import DotBinding.Proofs.Dot.BundleForms
import DotBinding.Proofs.Template.Assembly
import DotBinding.Proofs.Binary64.Rounding
import DotBinding.Proofs.Json.Numerals
import DotBinding.Proofs.Json.RoundTrip
import DotBinding.Proofs.Json.Ascii
import DotBinding.Proofs.Cypher.Storage
