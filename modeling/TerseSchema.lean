import TerseSchema.Calendar
import TerseSchema.Cli.Commands
import TerseSchema.Cli.Display
import TerseSchema.Cli.Options
import TerseSchema.Cli.Request
import TerseSchema.Entries
import TerseSchema.Failure
import TerseSchema.Field.Mapping
import TerseSchema.Field.Shape
import TerseSchema.Files
import TerseSchema.Json.Plain
import TerseSchema.Json.Reader
import TerseSchema.Json.Writer
import TerseSchema.Limit
import TerseSchema.Loading
import TerseSchema.Logging
import TerseSchema.Main
import TerseSchema.MetaSchema.Check
import TerseSchema.MetaSchema.Rule
import TerseSchema.MetaSchema.Uniqueness
import TerseSchema.MetaSchema.Vocabulary
import TerseSchema.Number.Binary64
import TerseSchema.Number.Numeral
import TerseSchema.Number.Shortest
import TerseSchema.Proofs.Canonical
import TerseSchema.Proofs.Cli.Agreement
import TerseSchema.Proofs.Cli.Convert
import TerseSchema.Proofs.Entries
import TerseSchema.Proofs.Field.Blame
import TerseSchema.Proofs.Field.Conformity
import TerseSchema.Proofs.Field.Contents
import TerseSchema.Proofs.Field.Mapping
import TerseSchema.Proofs.Field.Mismatch
import TerseSchema.Proofs.Field.Recoding
import TerseSchema.Proofs.Field.Reordering
import TerseSchema.Proofs.Field.Shape
import TerseSchema.Proofs.Field.Sources
import TerseSchema.Proofs.Json.Characters
import TerseSchema.Proofs.Json.Fixed
import TerseSchema.Proofs.Json.Number
import TerseSchema.Proofs.Json.Obstacle
import TerseSchema.Proofs.Json.Plain
import TerseSchema.Proofs.Json.Reading
import TerseSchema.Proofs.Json.String
import TerseSchema.Proofs.Loading.Failure
import TerseSchema.Proofs.Loading.Json
import TerseSchema.Proofs.MetaSchema.Check
import TerseSchema.Proofs.MetaSchema.Conformance
import TerseSchema.Proofs.MetaSchema.Keywords
import TerseSchema.Proofs.MetaSchema.Meeting
import TerseSchema.Proofs.MetaSchema.Reached
import TerseSchema.Proofs.MetaSchema.Reordering
import TerseSchema.Proofs.MetaSchema.Uniqueness
import TerseSchema.Proofs.Number.Rounding
import TerseSchema.Proofs.Number.Shortest
import TerseSchema.Proofs.Number.Spelling
import TerseSchema.Proofs.Outcome
import TerseSchema.Proofs.Pairing
import TerseSchema.Proofs.Reordering
import TerseSchema.Proofs.Routing
import TerseSchema.Proofs.Schema.AllowedValues
import TerseSchema.Proofs.Schema.Canonical
import TerseSchema.Proofs.Schema.Document
import TerseSchema.Proofs.Schema.Encoding
import TerseSchema.Proofs.Schema.Nodes
import TerseSchema.Proofs.Schema.Ordering
import TerseSchema.Proofs.Schema.Passed
import TerseSchema.Proofs.Schema.Reordering
import TerseSchema.Proofs.Schema.Rereading
import TerseSchema.Proofs.Schema.Settled
import TerseSchema.Proofs.Schema.Sorting
import TerseSchema.Proofs.Schema.WellFormed
import TerseSchema.Proofs.Shorthand.Blame
import TerseSchema.Proofs.Shorthand.Expansion
import TerseSchema.Proofs.Shorthand.Grammar
import TerseSchema.Proofs.Shorthand.Meaning
import TerseSchema.Proofs.Shorthand.Output
import TerseSchema.Proofs.Shorthand.Reordering
import TerseSchema.Proofs.Shorthand.Shape
import TerseSchema.Proofs.Shorthand.Spelling
import TerseSchema.Proofs.Sorting.Merging
import TerseSchema.Proofs.Sorting.Runs
import TerseSchema.Proofs.Sorting.Search
import TerseSchema.Proofs.Sorting.Sorted
import TerseSchema.Proofs.Text.Digit
import TerseSchema.Proofs.Text.Order
import TerseSchema.Proofs.Text.Pattern
import TerseSchema.Proofs.Text.Split
import TerseSchema.Proofs.Value.Parts
import TerseSchema.Proofs.Value.Plain
import TerseSchema.Proofs.Value.Reordering
import TerseSchema.Proofs.Value.Texts
import TerseSchema.Proofs.Yaml.Building
import TerseSchema.Proofs.Yaml.Flow
import TerseSchema.Proofs.Yaml.Layout
import TerseSchema.Proofs.Yaml.Nodes
import TerseSchema.Proofs.Yaml.Number
import TerseSchema.Proofs.Yaml.Plain
import TerseSchema.Proofs.Yaml.Quoted
import TerseSchema.Proofs.Yaml.Resolution
import TerseSchema.Routing
import TerseSchema.Schema.Canonical
import TerseSchema.Schema.Document
import TerseSchema.Shorthand.Expansion
import TerseSchema.Shorthand.Key
import TerseSchema.Shorthand.Scalar
import TerseSchema.Sorting
import TerseSchema.Terminal.Action
import TerseSchema.Terminal.Markup
import TerseSchema.Terminal.Panel
import TerseSchema.Terminal.Pictures
import TerseSchema.Terminal.Style
import TerseSchema.Terminal.Width
import TerseSchema.Text.Basic
import TerseSchema.Text.Blank
import TerseSchema.Text.Capital
import TerseSchema.Text.Casing
import TerseSchema.Text.Digit
import TerseSchema.Text.Pattern
import TerseSchema.Text.Printable
import TerseSchema.Text.Quoted
import TerseSchema.Text.Range
import TerseSchema.Text.SmallLetter
import TerseSchema.Text.Split
import TerseSchema.Text.Word
import TerseSchema.Value.Basic
import TerseSchema.Value.Equality
import TerseSchema.Value.Kind
import TerseSchema.Value.Literal
import TerseSchema.Yaml.Character
import TerseSchema.Yaml.Content.Building
import TerseSchema.Yaml.Content.Scalar
import TerseSchema.Yaml.Content.Unfolding
import TerseSchema.Yaml.Cursor
import TerseSchema.Yaml.Document
import TerseSchema.Yaml.Fault
import TerseSchema.Yaml.Node.Basic
import TerseSchema.Yaml.Node.Merge
import TerseSchema.Yaml.Node.Parser
import TerseSchema.Yaml.Resolution
import TerseSchema.Yaml.Scalar.Binary
import TerseSchema.Yaml.Scalar.Block
import TerseSchema.Yaml.Scalar.Number
import TerseSchema.Yaml.Scalar.Plain
import TerseSchema.Yaml.Scalar.Quoted
import TerseSchema.Yaml.Scalar.Timestamp
import TerseSchema.Yaml.Token
import TerseSchema.Yaml.Token.Lexer
import TerseSchema.Yaml.Token.Property
