import Tablecast.Artifact.Identifier
import Tablecast.Artifact.Model
import Tablecast.Artifact.Registry
import Tablecast.Artifact.Render
import Tablecast.Artifact.WireSchema
import Tablecast.Calendar.Date
import Tablecast.Calendar.Timestamp
import Tablecast.Codec.Decode
import Tablecast.Codec.Encode
import Tablecast.Codec.Error
import Tablecast.Codec.Record
import Tablecast.Codec.Value
import Tablecast.CommandLine
import Tablecast.Declaration
import Tablecast.Document.Basic
import Tablecast.Document.Consistency
import Tablecast.Document.Error
import Tablecast.Document.Printer
import Tablecast.Document.Reader
import Tablecast.FieldType
import Tablecast.Json.Fault
import Tablecast.Json.Number
import Tablecast.Json.Shape
import Tablecast.Json.Skip
import Tablecast.Json.Text
import Tablecast.Json.Tree
import Tablecast.Keyed
import Tablecast.Main
import Tablecast.Naming
import Tablecast.Numeric.Binary
import Tablecast.Numeric.Layout
import Tablecast.Numeric.Shortest
import Tablecast.Plan.Basic
import Tablecast.Plan.Cycle
import Tablecast.Plan.Resolve
import Tablecast.Proofs.Artifact.Accessor
import Tablecast.Proofs.Artifact.Agreement
import Tablecast.Proofs.Artifact.Code
import Tablecast.Proofs.Artifact.Description
import Tablecast.Proofs.Artifact.FieldNames
import Tablecast.Proofs.Artifact.ModelNames
import Tablecast.Proofs.Artifact.Moves
import Tablecast.Proofs.Artifact.QuotedNames
import Tablecast.Proofs.Artifact.Registry
import Tablecast.Proofs.Artifact.WireLines
import Tablecast.Proofs.Artifact.WireNames
import Tablecast.Proofs.Artifact.WireText
import Tablecast.Proofs.Codec.Decoding
import Tablecast.Proofs.Codec.Encoding
import Tablecast.Proofs.Codec.Halves
import Tablecast.Proofs.Codec.Omission
import Tablecast.Proofs.Codec.RoundTrip
import Tablecast.Proofs.Codec.Seconds
import Tablecast.Proofs.Codec.Stability
import Tablecast.Proofs.Codec.Typing
import Tablecast.Proofs.Completion
import Tablecast.Proofs.Declaration.Number
import Tablecast.Proofs.Declaration.Numeral
import Tablecast.Proofs.Declaration.Range
import Tablecast.Proofs.Declaration.Spelling
import Tablecast.Proofs.Document.KnownMembers
import Tablecast.Proofs.Document.RoundTrip
import Tablecast.Proofs.Json.Accepted
import Tablecast.Proofs.Json.Grammar
import Tablecast.Proofs.Json.Members
import Tablecast.Proofs.Json.Printed
import Tablecast.Proofs.Json.Scanning
import Tablecast.Proofs.Json.Spelling
import Tablecast.Proofs.Json.Tokens
import Tablecast.Proofs.Json.Unambiguous
import Tablecast.Proofs.Plan.Boxing
import Tablecast.Proofs.Plan.Erasure
import Tablecast.Proofs.Plan.Failure
import Tablecast.Proofs.Plan.Locality
import Tablecast.Proofs.Run
import Tablecast.Proofs.Settings.Outputs
import Tablecast.Proofs.Settings.Partial
import Tablecast.Proofs.Storage.Clash
import Tablecast.Proofs.Storage.Replacement
import Tablecast.Proofs.Storage.Sibling
import Tablecast.Proofs.Text.Blank
import Tablecast.Proofs.Text.Capitals
import Tablecast.Proofs.Text.Casing
import Tablecast.Proofs.Text.Literal
import Tablecast.Proofs.Text.Lowering
import Tablecast.Proofs.Text.SnakeName
import Tablecast.Proofs.Text.SourceLines
import Tablecast.Proofs.Text.Spacing
import Tablecast.Proofs.Toml.Assembly
import Tablecast.Proofs.Toml.Continuation
import Tablecast.Proofs.Toml.LineEnd
import Tablecast.Proofs.Toml.Lines
import Tablecast.Proofs.Toml.Spelling
import Tablecast.Run
import Tablecast.Settings.Basic
import Tablecast.Settings.Reader
import Tablecast.Storage.Disk
import Tablecast.Storage.FileTree
import Tablecast.Storage.Path
import Tablecast.Storage.Publication
import Tablecast.Text.Alphanumeric
import Tablecast.Text.Blank
import Tablecast.Text.CaseMapping
import Tablecast.Text.Casing
import Tablecast.Text.CodeRange
import Tablecast.Text.Comment
import Tablecast.Text.Graphic
import Tablecast.Text.Hex
import Tablecast.Text.LetterCase
import Tablecast.Text.Quoted
import Tablecast.Toml.Item
import Tablecast.Toml.Reader
import Tablecast.Toml.Scalar
import Tablecast.Toml.Text
import Tablecast.WireType
