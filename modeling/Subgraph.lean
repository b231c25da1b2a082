import Subgraph.Main
import Subgraph.FileTree
import Subgraph.Protocol.Json
import Subgraph.Scaffold
import Subgraph.Proofs.Runs
import Subgraph.Proofs.Loading
import Subgraph.Proofs.Writing
import Subgraph.Proofs.Interleaving
import Subgraph.Proofs.Turns
import Subgraph.Proofs.Builds
import Subgraph.Proofs.Artifacts
import Subgraph.Proofs.Components
import Subgraph.Proofs.OutputPaths
import Subgraph.Proofs.Layout
import Subgraph.Proofs.Balance
import Subgraph.Proofs.Placement
import Subgraph.Proofs.Indentation
import Subgraph.Proofs.KeptLines
import Subgraph.Proofs.Relayout
import Subgraph.Proofs.Summary
import Subgraph.Proofs.Tidy
import Subgraph.Proofs.Literals
import Subgraph.Proofs.Signatures
import Subgraph.Proofs.Declarations
import Subgraph.Proofs.Bindings
import Subgraph.Proofs.Stages
import Subgraph.Proofs.Phases
import Subgraph.Proofs.Deliveries
import Subgraph.Proofs.Places
import Subgraph.Proofs.Directories
import Subgraph.Proofs.FileTrees
import Subgraph.Proofs.Tasks
import Subgraph.Proofs.CheckedNames
import Subgraph.Proofs.PascalCase
import Subgraph.Proofs.ClassNames
import Subgraph.Proofs.OutputNames
import Subgraph.Proofs.Overwriting
import Subgraph.Proofs.PlainFiles
import Subgraph.Proofs.Obstacles
import Subgraph.Proofs.Clashes
import Subgraph.Proofs.Reruns
import Subgraph.Proofs.Contracts
import Subgraph.Proofs.Rules
import Subgraph.Proofs.Completeness
import Subgraph.Proofs.Reorderings
import Subgraph.Proofs.Identifiers
import Subgraph.Proofs.TemplateClasses
import Subgraph.Proofs.DistinctNames
import Subgraph.Proofs.ValueTypes
import Subgraph.Proofs.MemberNames
import Subgraph.Proofs.LocalNames
import Subgraph.Proofs.BindingPaths
import Subgraph.Proofs.EventClasses
import Subgraph.Proofs.ContractGrammars
import Subgraph.Proofs.InterfaceFiles
import Subgraph.Proofs.DefinitionFiles
import Subgraph.Proofs.Frames
import Subgraph.Proofs.Outlines
import Subgraph.Proofs.Scanning
import Subgraph.Proofs.OutlineTokens
import Subgraph.Proofs.OutlineDocuments
import Subgraph.Proofs.Numerals
import Subgraph.Proofs.OutlineReading
import Subgraph.Proofs.ScaffoldTexts
import Subgraph.Proofs.Scaffolds
import Subgraph.Proofs.Versions
import Subgraph.Proofs.Exchanges
import Subgraph.Proofs.VersionPlaces
