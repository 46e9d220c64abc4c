import CBindings.Collector
import CBindings.CommandLine.Arguments
import CBindings.CommandLine.Run
import CBindings.CommandLine.Similarity
import CBindings.Declaration
import CBindings.Declaration.Json
import CBindings.Document
import CBindings.Extraction
import CBindings.Failure
import CBindings.Foreign
import CBindings.HeaderUnit.Basic
import CBindings.HeaderUnit.Declarations
import CBindings.Interchange.Declaration
import CBindings.Interchange.HeaderUnit
import CBindings.Interchange.Tree
import CBindings.Literal.Basic
import CBindings.Literal.Quoted
import CBindings.Load
import CBindings.Location
import CBindings.Log
import CBindings.MacroDefinition
import CBindings.Main
import CBindings.NameFilter
import CBindings.Native.Class
import CBindings.Native.Memory
import CBindings.Native.Store
import CBindings.Native.Type
import CBindings.Native.Zero
import CBindings.Number.Binary64
import CBindings.Number.Encoding
import CBindings.Number.Reading
import CBindings.Number.Shortest
import CBindings.ParserLibrary
import CBindings.Path
import CBindings.Pattern.Basic
import CBindings.Pattern.Fault
import CBindings.Pattern.Match
import CBindings.Pattern.Parse
import CBindings.Probe.Output
import CBindings.Probe.Program
import CBindings.Probe.Resolve
import CBindings.Registry.Access
import CBindings.Registry.Basic
import CBindings.Registry.Binding
import CBindings.Registry.ConstantIndex
import CBindings.Registry.EnumClass
import CBindings.Registry.Register
import CBindings.Registry.Signature
import CBindings.Registry.Types
import CBindings.Registry.View
import CBindings.Request
import CBindings.SearchPath
import CBindings.Text.Alphanumeric
import CBindings.Text.Basic
import CBindings.Text.Blank
import CBindings.Text.Case
import CBindings.Text.CharacterName
import CBindings.Text.Counterpart
import CBindings.Text.Digit
import CBindings.Text.Identifier
import CBindings.Text.Printable
import CBindings.Text.Quoted
import CBindings.Text.Utf8
import CBindings.Toolchain
import CBindings.TypeExpr
import CBindings.Value
import CBindings.Proofs.HeaderUnit.Acyclic
import CBindings.Proofs.BoundName
import CBindings.Proofs.HeaderUnit.Nested
import CBindings.Proofs.HeaderUnit.Given
import CBindings.Proofs.Collector.Visits
import CBindings.Proofs.Collector.Names
import CBindings.Proofs.Collector.Filter
import CBindings.Proofs.Collector.Opaque
import CBindings.Proofs.Probe.Reading
import CBindings.Proofs.Probe.Resolve
import CBindings.Proofs.Extraction.Harvest
import CBindings.Proofs.Extraction.Order
import CBindings.Proofs.Number.Overflow
import CBindings.Proofs.Literal.Oversized
import CBindings.Proofs.Collector.Faults
import CBindings.Proofs.Extraction.Containment
import CBindings.Proofs.Extraction.Unprobed
import CBindings.Proofs.Collector.Again
import CBindings.Proofs.Extraction.Unparsed
import CBindings.Proofs.Registry.Resolution
import CBindings.Proofs.Registry.Frame
import CBindings.Proofs.Native.FieldLists
import CBindings.Proofs.TypeExpr
import CBindings.Proofs.Registry.Search
import CBindings.Proofs.Registry.Growth
import CBindings.Proofs.Registry.Phases
import CBindings.Proofs.Registry.Trials
import CBindings.Proofs.Registry.Escape
import CBindings.Proofs.Registry.Enumerators
import CBindings.Proofs.Registry.Atomicity
import CBindings.Proofs.Registry.Totality
import CBindings.Proofs.Registry.Effects
import CBindings.Proofs.Registry.Sessions
import CBindings.Proofs.Registry.Tags
import CBindings.Proofs.Registry.ByValue
import CBindings.Proofs.Registry.Numbers
import CBindings.Proofs.Registry.Index
import CBindings.Proofs.Extraction.Silence
import CBindings.Proofs.Text.Cutting
import CBindings.Proofs.Number.Decimal
import CBindings.Proofs.Literal.Bytes
import CBindings.Proofs.Probe.Segment
import CBindings.Proofs.Probe.Printed
import CBindings.Proofs.Number.Significant
import CBindings.Proofs.Probe.Floating
import CBindings.Proofs.HeaderUnit.LeftBehind
import CBindings.Proofs.Native.Arrays
import CBindings.Proofs.Registry.Aliases
import CBindings.Proofs.Number.Nearest
import CBindings.Proofs.Number.Shortest
import CBindings.Proofs.Declaration.Lossless
import CBindings.Proofs.Literal.Tokens
import CBindings.Proofs.Number.Positional
import CBindings.Proofs.Literal.Integer
import CBindings.Proofs.Number.Fraction
import CBindings.Proofs.Literal.Constant
import CBindings.Proofs.Literal.Escapes
import CBindings.Proofs.Literal.StringConstant
import CBindings.Proofs.Literal.Adjacent
import CBindings.Proofs.Probe.ByName
import CBindings.Proofs.Probe.Escape
import CBindings.Proofs.Probe.Pruning
import CBindings.Proofs.Native.Slots
import CBindings.Proofs.Native.Placing
import CBindings.Proofs.Native.Tables
import CBindings.Proofs.Native.Zeros
import CBindings.Proofs.Registry.Moves
import CBindings.Proofs.Registry.Withdrawal
import CBindings.Proofs.Registry.Signatures
import CBindings.Proofs.Registry.Soundness
import CBindings.Proofs.Registry.Constructors
import CBindings.Proofs.Registry.ZeroValues
import CBindings.Proofs.ParserLibrary
import CBindings.Proofs.Text.Lines
import CBindings.Proofs.SearchPath
