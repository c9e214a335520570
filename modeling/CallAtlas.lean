import CallAtlas.Analysis
import CallAtlas.Block
import CallAtlas.BlockGraph
import CallAtlas.Boundary
import CallAtlas.CallGraph.Basic
import CallAtlas.CallGraph.Build
import CallAtlas.CallGraph.Filter
import CallAtlas.CallGraph.Lifecycle
import CallAtlas.CallGraph.Node
import CallAtlas.CallGraph.Stats
import CallAtlas.CallGraph.Store
import CallAtlas.CharSet
import CallAtlas.CharSet.Age
import CallAtlas.CharSet.Break.Cluster
import CallAtlas.CharSet.Break.Sentence
import CallAtlas.CharSet.Break.Word
import CallAtlas.CharSet.Case
import CallAtlas.CharSet.CaseChange
import CallAtlas.CharSet.Category
import CallAtlas.CharSet.Emoji
import CallAtlas.CharSet.Later
import CallAtlas.CharSet.Letter
import CallAtlas.CharSet.Mark
import CallAtlas.CharSet.Named
import CallAtlas.CharSet.Number
import CallAtlas.CharSet.Property
import CallAtlas.CharSet.Punctuation
import CallAtlas.CharSet.Role
import CallAtlas.CharSet.Script
import CallAtlas.CharSet.Symbol
import CallAtlas.CharSet.Utf8
import CallAtlas.Code
import CallAtlas.Component
import CallAtlas.Hierarchy
import CallAtlas.Image
import CallAtlas.Instruction
import CallAtlas.Journal.Analysis
import CallAtlas.Journal.Basic
import CallAtlas.Journal.Program
import CallAtlas.Json.Basic
import CallAtlas.Json.Image
import CallAtlas.Json.Results
import CallAtlas.Offset
import CallAtlas.Options
import CallAtlas.Pattern
import CallAtlas.Pattern.Bracket
import CallAtlas.Pattern.Escape
import CallAtlas.Pattern.Marked
import CallAtlas.Pattern.Parser
import CallAtlas.Pattern.Regex
import CallAtlas.Pattern.Size
import CallAtlas.Program
import CallAtlas.Reference
import CallAtlas.Region
import CallAtlas.Registration
import CallAtlas.Search
import CallAtlas.Text
import CallAtlas.Xref
import CallAtlas.Proofs.Tiling
import CallAtlas.Proofs.Partition
import CallAtlas.Proofs.ControlFlow
import CallAtlas.Proofs.Search
import CallAtlas.Proofs.Hierarchy
import CallAtlas.Proofs.Subclassing
import CallAtlas.Proofs.SuperclassChain
import CallAtlas.Proofs.Numbering
import CallAtlas.Proofs.ExplicitCalls
import CallAtlas.Proofs.Dispatch
import CallAtlas.Proofs.Inheritance
import CallAtlas.Proofs.Interfaces
import CallAtlas.Proofs.Filing
import CallAtlas.Proofs.Extension
import CallAtlas.Proofs.Alike
import CallAtlas.Proofs.Opacity
import CallAtlas.Proofs.Relisting
import CallAtlas.Proofs.Typing
import CallAtlas.Proofs.Callbacks
import CallAtlas.Proofs.Layers
import CallAtlas.Proofs.Outcome
import CallAtlas.Proofs.Layout
import CallAtlas.Proofs.LayoutCheck
import CallAtlas.Proofs.RoundTrip
import CallAtlas.Proofs.Filtering
import CallAtlas.Proofs.Bridges
import CallAtlas.Proofs.ExecutionPaths
import CallAtlas.Proofs.Regions
import CallAtlas.Proofs.Lifecycles
import CallAtlas.Proofs.Recognition
import CallAtlas.Proofs.CrossReferences
import CallAtlas.Proofs.CodeReferences
import CallAtlas.Proofs.CallRecords
import CallAtlas.Proofs.MethodIndex
import CallAtlas.Proofs.Lookups
import CallAtlas.Proofs.Texts
import CallAtlas.Proofs.Signatures
import CallAtlas.Proofs.Identifiers
import CallAtlas.Proofs.RegistrationLines
