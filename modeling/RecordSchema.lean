import RecordSchema.Number.Binary64
import RecordSchema.Members
import RecordSchema.Text.Blank
import RecordSchema.Number.Shortest
import RecordSchema.Number.FloatText
import RecordSchema.Number.IntLiteral
import RecordSchema.Number.Decimal
import RecordSchema.Json.Value
import RecordSchema.Json.Printer
import RecordSchema.Json.Parser
import RecordSchema.Unicode.Category
import RecordSchema.Unicode.Property
import RecordSchema.Unicode.Script
import RecordSchema.Unicode.Folding
import RecordSchema.Regex.CharSet
import RecordSchema.Regex.Basic
import RecordSchema.Regex.Search
import RecordSchema.Regex.PropertyName
import RecordSchema.Regex.Reader
import RecordSchema.Path
import RecordSchema.Failure
import RecordSchema.Name
import RecordSchema.CleanError
import RecordSchema.Annotations
import RecordSchema.Kind
import RecordSchema.Kind.Pattern
import RecordSchema.Address
import RecordSchema.DateTime
import RecordSchema.Regex.Pattern
import RecordSchema.Scalar
import RecordSchema.Leaf.Basic
import RecordSchema.Leaf.Check
import RecordSchema.Leaf.Clean
import RecordSchema.Node.Basic
import RecordSchema.Node.Compile
import RecordSchema.Node.Export
import RecordSchema.Node.Check
import RecordSchema.Node.Clean
import RecordSchema.Tree
import RecordSchema.Registry.Basic
import RecordSchema.File.Path
import RecordSchema.File.System
import RecordSchema.Registry.Load
import RecordSchema.Registry.Shared
import RecordSchema.Proofs.Except
import RecordSchema.Proofs.Members
import RecordSchema.Proofs.Name
import RecordSchema.Proofs.Annotations
import RecordSchema.Proofs.Scalar
import RecordSchema.Proofs.Json.Parts
import RecordSchema.Proofs.Json.Same
import RecordSchema.Proofs.Json.Reordered
import RecordSchema.Proofs.Json.Parser
import RecordSchema.Proofs.Kind.Form
import RecordSchema.Proofs.Number.Numeral
import RecordSchema.Proofs.Number.Binary64
import RecordSchema.Proofs.Number.Overflow
import RecordSchema.Proofs.Number.Grouped
import RecordSchema.Proofs.Number.Decimal
import RecordSchema.Proofs.Number.Integer
import RecordSchema.Proofs.Regex.Language
import RecordSchema.Proofs.Regex.Search
import RecordSchema.Proofs.Leaf.Accept
import RecordSchema.Proofs.Leaf.Clean
import RecordSchema.Proofs.Leaf.Stable
import RecordSchema.Proofs.Leaf.Coherent
import RecordSchema.Proofs.Leaf.Constraints
import RecordSchema.Proofs.Leaf.Directives
import RecordSchema.Proofs.Leaf.Export
import RecordSchema.Proofs.Node.Shape
import RecordSchema.Proofs.Node.Conforms
import RecordSchema.Proofs.Node.Reordered
import RecordSchema.Proofs.Node.Refusal
import RecordSchema.Proofs.Node.Coherent
import RecordSchema.Proofs.Node.Stable
import RecordSchema.Proofs.Node.Entries
import RecordSchema.Proofs.Node.Export
import RecordSchema.Proofs.Tree
import RecordSchema.Proofs.Node.Relative
import RecordSchema.Proofs.Node.Choice
import RecordSchema.Proofs.Node.Located
import RecordSchema.Proofs.Leaf.Idempotent
import RecordSchema.Proofs.Node.Idempotent
import RecordSchema.Proofs.Node.TakenOver
import RecordSchema.Proofs.Node.WellFormed
import RecordSchema.Proofs.Kind.Order
import RecordSchema.Proofs.Leaf.Calls
import RecordSchema.Proofs.File.Path
import RecordSchema.Proofs.Registry.Basic
import RecordSchema.Proofs.Registry.Load
import RecordSchema.Proofs.Registry.Shared
import RecordSchema.Proofs.Node.Calls
import RecordSchema.Proofs.Leaf.Given
import RecordSchema.Proofs.Leaf.Blame
import RecordSchema.Proofs.Node.Origin
import RecordSchema.Proofs.Node.Unique
import RecordSchema.Proofs.Number.FloatText
import RecordSchema.Proofs.Leaf.Finite
import RecordSchema.Proofs.Node.Dependence
import RecordSchema.Proofs.Node.Needs
import RecordSchema.Proofs.Node.Repeats
import RecordSchema.Proofs.Leaf.Allowed
import RecordSchema.Proofs.Address
import RecordSchema.Proofs.Leaf.Address
import RecordSchema.Proofs.Number.Literal
import RecordSchema.Proofs.Number.Machine
import RecordSchema.Proofs.Kind.Integer
import RecordSchema.Proofs.Leaf.Integer
import RecordSchema.Proofs.Leaf.Bounded
import RecordSchema.Proofs.Number.Value
import RecordSchema.Proofs.Number.Written
import RecordSchema.Proofs.Leaf.Decimal
import RecordSchema.Proofs.Number.Nearest
import RecordSchema.Proofs.Leaf.Price
import RecordSchema.Proofs.Kind.Calendar
import RecordSchema.Proofs.Calendar
import RecordSchema.Proofs.DateTime
import RecordSchema.Proofs.Leaf.DateTime
import RecordSchema.Proofs.Base64
import RecordSchema.Proofs.Leaf.Form
import RecordSchema.Proofs.Text.Digit
import RecordSchema.Proofs.DateText
import RecordSchema.Proofs.Leaf.DateText
import RecordSchema.Proofs.Number.Shortest
import RecordSchema.Proofs.Number.Notation
import RecordSchema.Proofs.Leaf.Number
import RecordSchema.Proofs.Node.Merged
import RecordSchema.Proofs.Path
