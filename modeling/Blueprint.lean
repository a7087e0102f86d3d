import Blueprint.About
import Blueprint.Callable
import Blueprint.Catalog.Attribute
import Blueprint.Catalog.Basis
import Blueprint.Catalog.Builtin
import Blueprint.Catalog.Class
import Blueprint.Catalog.Creation
import Blueprint.Catalog.Dataclass
import Blueprint.Catalog.Defect
import Blueprint.Catalog.Descent
import Blueprint.Catalog.Description
import Blueprint.Catalog.Enumeration
import Blueprint.Catalog.Identity
import Blueprint.Catalog.Introspection
import Blueprint.Catalog.Layout
import Blueprint.Catalog.Linearization
import Blueprint.Catalog.Lookup
import Blueprint.Catalog.Module
import Blueprint.Catalog.Name
import Blueprint.Catalog.Signature
import Blueprint.CommandLine.Arguments
import Blueprint.CommandLine.Session
import Blueprint.Declaration
import Blueprint.Definition.Binding
import Blueprint.Definition.Builder
import Blueprint.Definition.Chain
import Blueprint.Definition.Loader
import Blueprint.Definition.Position
import Blueprint.Double.Basic
import Blueprint.Double.Notation
import Blueprint.Double.Rounding
import Blueprint.Double.Shortest
import Blueprint.Entries
import Blueprint.Factory.Draft
import Blueprint.Factory.Name
import Blueprint.Factory.Render
import Blueprint.Factory.Statement
import Blueprint.Failure
import Blueprint.Files.Export
import Blueprint.Files.Text
import Blueprint.Files.Tree
import Blueprint.Json.Basic
import Blueprint.Json.Reader
import Blueprint.Json.Writer
import Blueprint.Main
import Blueprint.Plan.Arguments
import Blueprint.Plan.Compile
import Blueprint.Plan.Pass
import Blueprint.Plan.Payload
import Blueprint.Proofs.Calls
import Blueprint.Proofs.Run
import Blueprint.Registry
import Blueprint.Resolution
import Blueprint.Run
import Blueprint.Stack
import Blueprint.Text.Alphanumeric
import Blueprint.Text.Base64
import Blueprint.Text.Basic
import Blueprint.Text.CodeRanges
import Blueprint.Text.Compatibility
import Blueprint.Text.Composition
import Blueprint.Text.Digit
import Blueprint.Text.Identifier
import Blueprint.Text.Normal
import Blueprint.Text.Printable
import Blueprint.Text.Quoted
import Blueprint.Text.Utf8
import Blueprint.Tool
import Blueprint.Value.Basic
import Blueprint.Value.Display
import Blueprint.Value.Equal
import Blueprint.Value.Order
import Blueprint.Value.Written
import Blueprint.Proofs.Knowledge
import Blueprint.Proofs.Compilation
import Blueprint.Proofs.Acceptance
import Blueprint.Proofs.Defaults
import Blueprint.Proofs.Fatality
import Blueprint.Proofs.Laziness
import Blueprint.Proofs.Emission.Execution
import Blueprint.Proofs.Emission.Script
import Blueprint.Proofs.Emission.Paths
import Blueprint.Proofs.Emission.Translation
import Blueprint.Proofs.Emission.Blocks
import Blueprint.Proofs.Emission.Names
import Blueprint.Proofs.Emission.Meaning
import Blueprint.Proofs.Emission.Drafting
import Blueprint.Proofs.Emission.Drafts
import Blueprint.Proofs.Emission.Legality
import Blueprint.Proofs.Emission.Spelling
import Blueprint.Proofs.Emission.Faithful
import Blueprint.Proofs.Answers
import Blueprint.Proofs.Pass
import Blueprint.Proofs.Emission.Splits
import Blueprint.Proofs.Export
import Blueprint.Proofs.Loading
import Blueprint.Proofs.Lookup
import Blueprint.Proofs.Delivery
import Blueprint.Proofs.Signatures
import Blueprint.Proofs.ClassMaking
import Blueprint.Proofs.Modules
import Blueprint.Proofs.CatalogCalls
import Blueprint.Proofs.Derivation
import Blueprint.Proofs.BoundPositions
import Blueprint.Proofs.Emission.Uses
import Blueprint.Proofs.Emission.Hygiene
import Blueprint.Proofs.Emission.BareNames
import Blueprint.Proofs.Rendering
import Blueprint.Proofs.Misses
import Blueprint.Proofs.Reloading
import Blueprint.Proofs.ClearOperands
import Blueprint.Proofs.TellingApart
import Blueprint.Proofs.Imports
import Blueprint.Proofs.Independence
import Blueprint.Proofs.Truncation
import Blueprint.Proofs.Congruence
import Blueprint.Proofs.Agreement
import Blueprint.Proofs.Steps
import Blueprint.Proofs.Beginnings
import Blueprint.Proofs.Redeclaring
import Blueprint.Proofs.Rebinding
import Blueprint.Proofs.PayloadTypes
import Blueprint.Proofs.Failing
import Blueprint.Proofs.Attribution
import Blueprint.Proofs.Termination
import Blueprint.Proofs.Registration
import Blueprint.Proofs.Sorting
import Blueprint.Proofs.KeyOrder
import Blueprint.Proofs.EntryOrder
import Blueprint.Proofs.Faults
import Blueprint.Proofs.ReadingFaults
import Blueprint.Proofs.FrontEnds
import Blueprint.Proofs.CatalogFaults
import Blueprint.Proofs.EntryLines
import Blueprint.Proofs.Emission.Layout
import Blueprint.Proofs.Emission.OneLine
import Blueprint.Proofs.Emission.Lines
import Blueprint.Proofs.Escapes
import Blueprint.Proofs.Candidates
import Blueprint.Proofs.ClassPaths
import Blueprint.Proofs.Emission.ImportLines
import Blueprint.Proofs.Splitting
import Blueprint.Proofs.Literals.Quotations
import Blueprint.Proofs.Literals.Reading
import Blueprint.Proofs.Literals.RoundTrip
import Blueprint.Proofs.Emission.FactoryNames
import Blueprint.Proofs.FactoryModules
import Blueprint.Proofs.OperandLanguage
import Blueprint.Proofs.Fields
import Blueprint.Proofs.Resolving
import Blueprint.Proofs.RepeatedNames
import Blueprint.Proofs.Numerals
import Blueprint.Proofs.LoadedValues
import Blueprint.Proofs.KeyedArguments
import Blueprint.Proofs.Rearranging
import Blueprint.Proofs.Building
import Blueprint.Proofs.Comparing
import Blueprint.Proofs.Rekeying
