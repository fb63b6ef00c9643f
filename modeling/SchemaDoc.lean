import SchemaDoc.Calendar
import SchemaDoc.Command.Grammar
import SchemaDoc.Command.Line
import SchemaDoc.Command.Run
import SchemaDoc.Context
import SchemaDoc.Descriptor.Basic
import SchemaDoc.Descriptor.Literal
import SchemaDoc.Failure
import SchemaDoc.Fault
import SchemaDoc.Fields
import SchemaDoc.Files.Path
import SchemaDoc.Files.Tree
import SchemaDoc.Json.Printer
import SchemaDoc.Json.Reader
import SchemaDoc.Load
import SchemaDoc.Log.Event
import SchemaDoc.Log.Line
import SchemaDoc.Main
import SchemaDoc.Number.Binary64
import SchemaDoc.Number.Decimal
import SchemaDoc.Number.Reading
import SchemaDoc.Pattern.Escape
import SchemaDoc.Pattern.State
import SchemaDoc.Pattern.Syntax
import SchemaDoc.Reference.Expand
import SchemaDoc.Reference.Registry
import SchemaDoc.Reference.Resolver
import SchemaDoc.Reference.Resource
import SchemaDoc.Resolve
import SchemaDoc.Room
import SchemaDoc.Schema.Alike
import SchemaDoc.Schema.Check
import SchemaDoc.Schema.Demand
import SchemaDoc.Schema.Dialect
import SchemaDoc.Schema.Rules
import SchemaDoc.Source
import SchemaDoc.Tag
import SchemaDoc.Text.Blank
import SchemaDoc.Text.Cut
import SchemaDoc.Text.Code
import SchemaDoc.Text.Hex
import SchemaDoc.Text.Identifier
import SchemaDoc.Text.Letters
import SchemaDoc.Text.Lines
import SchemaDoc.Text.Names
import SchemaDoc.Text.Names.Aliases
import SchemaDoc.Text.Names.From00000
import SchemaDoc.Text.Names.From01000
import SchemaDoc.Text.Names.From02000
import SchemaDoc.Text.Names.From02800
import SchemaDoc.Text.Names.From03000
import SchemaDoc.Text.Names.From0A000
import SchemaDoc.Text.Names.From10000
import SchemaDoc.Text.Names.From12000
import SchemaDoc.Text.Names.From14000
import SchemaDoc.Text.Names.From1D000
import SchemaDoc.Text.Names.From1F000
import SchemaDoc.Text.Printable
import SchemaDoc.Text.Quoted
import SchemaDoc.Text.Utf8
import SchemaDoc.Uri.Host
import SchemaDoc.Uri.Join
import SchemaDoc.Uri.Malformed
import SchemaDoc.Uri.Parts
import SchemaDoc.Uri.Percent
import SchemaDoc.Value.Arithmetic
import SchemaDoc.Value.Basic
import SchemaDoc.Value.Members
import SchemaDoc.Value.Order
import SchemaDoc.Value.Sets
import SchemaDoc.Value.Sorting
import SchemaDoc.Value.Text
import SchemaDoc.Yaml.Base64
import SchemaDoc.Yaml.Complaint
import SchemaDoc.Yaml.Content
import SchemaDoc.Yaml.Cursor
import SchemaDoc.Yaml.Document
import SchemaDoc.Yaml.Merge
import SchemaDoc.Yaml.Node
import SchemaDoc.Yaml.Scalar
import SchemaDoc.Yaml.Tag
import SchemaDoc.Yaml.Token
import SchemaDoc.Yaml.Token.Lexer
import SchemaDoc.Proofs.Failing
import SchemaDoc.Proofs.Reference.Inline
import SchemaDoc.Proofs.Reference.Retry
import SchemaDoc.Proofs.Files.Path
import SchemaDoc.Proofs.Uri.Fragment
import SchemaDoc.Proofs.Reference.Plain
import SchemaDoc.Proofs.Reference.Circle
import SchemaDoc.Proofs.Fields
import SchemaDoc.Proofs.Text.Lines
import SchemaDoc.Proofs.Source.Line
import SchemaDoc.Proofs.Source.Text
import SchemaDoc.Proofs.Tag
import SchemaDoc.Proofs.Reference.Depth
import SchemaDoc.Proofs.Reference.Ending
import SchemaDoc.Proofs.Uri.Join
import SchemaDoc.Proofs.Reference.Growing
import SchemaDoc.Proofs.Reference.Closed
import SchemaDoc.Proofs.Fields.Position
import SchemaDoc.Proofs.Files.Suffix
import SchemaDoc.Proofs.Source.Mentioned
import SchemaDoc.Proofs.Source.Drift
import SchemaDoc.Proofs.Value.Json
import SchemaDoc.Proofs.Value.Written
import SchemaDoc.Proofs.Value.Sets
import SchemaDoc.Proofs.Schema.Conforms
import SchemaDoc.Proofs.Fields.Strict
import SchemaDoc.Proofs.Uri.Unmarked
import SchemaDoc.Proofs.Value.Equality
import SchemaDoc.Proofs.Reference.Nameless
import SchemaDoc.Proofs.Reference.Known
import SchemaDoc.Proofs.Reference.Meaning
import SchemaDoc.Proofs.Reference.File
import SchemaDoc.Proofs.Reference.Elsewhere
import SchemaDoc.Proofs.Source.TagLines
import SchemaDoc.Proofs.Source.TagExpansion
import SchemaDoc.Proofs.Mention
import SchemaDoc.Proofs.Source.Again
import SchemaDoc.Proofs.Files.Tree
import SchemaDoc.Proofs.Source.Stored
import SchemaDoc.Proofs.Command.Silent
import SchemaDoc.Proofs.Text.Utf8
import SchemaDoc.Proofs.Files.Namable
import SchemaDoc.Proofs.Reference.Free
import SchemaDoc.Proofs.Fields.File
import SchemaDoc.Proofs.Schema.Filter
import SchemaDoc.Proofs.Value.Sameness
import SchemaDoc.Proofs.Reference.Overlaid
import SchemaDoc.Proofs.Reference.Arising
import SchemaDoc.Proofs.Reference.Chain
import SchemaDoc.Proofs.Text.Lossy
import SchemaDoc.Proofs.Text.Spelled
import SchemaDoc.Proofs.Uri.Percent
import SchemaDoc.Proofs.Uri.Relative
import SchemaDoc.Proofs.Files.Twins
import SchemaDoc.Proofs.Reference.Moved
import SchemaDoc.Proofs.Reference.Twins
import SchemaDoc.Proofs.Schema.Relocation
import SchemaDoc.Proofs.Command.Logging
import SchemaDoc.Proofs.Json.GivesUp
import SchemaDoc.Proofs.Json.Grammar
import SchemaDoc.Proofs.Json.Nesting
import SchemaDoc.Proofs.Json.Extent
import SchemaDoc.Proofs.Descriptor
import SchemaDoc.Proofs.Command.Reports
import SchemaDoc.Proofs.Reference.Anonymous
import SchemaDoc.Proofs.Reference.Taxonomy
import SchemaDoc.Proofs.Yaml.Scanning
import SchemaDoc.Proofs.Yaml.Merging
import SchemaDoc.Proofs.Yaml.Parsing
import SchemaDoc.Proofs.Yaml.Building
import SchemaDoc.Proofs.Load
import SchemaDoc.Proofs.Source.TagGrammar
import SchemaDoc.Proofs.Number.Digits
import SchemaDoc.Proofs.Fields.Bounds
import SchemaDoc.Proofs.Json.RoundTrip
