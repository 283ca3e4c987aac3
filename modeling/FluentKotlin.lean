import FluentKotlin.Text.Span
import FluentKotlin.Text.Blank
import FluentKotlin.Text.Letter
import FluentKotlin.Text.Word
import FluentKotlin.Text.Printable
import FluentKotlin.Text.Case
import FluentKotlin.Text.Segments
import FluentKotlin.Text.Code
import FluentKotlin.Text.Digit
import FluentKotlin.Text.Numeral
import FluentKotlin.Text.Lines
import FluentKotlin.Text.Lower
import FluentKotlin.Text.Quoted
import FluentKotlin.Decimal.Shortest
import FluentKotlin.Decimal.Written
import FluentKotlin.Value.Basic
import FluentKotlin.Value.Written
import FluentKotlin.Value.SetOrder
import FluentKotlin.Text.Record
import FluentKotlin.NameError
import FluentKotlin.Kotlin.ClassName
import FluentKotlin.Kotlin.TypeName
import FluentKotlin.Kotlin.Code.Basic
import FluentKotlin.Kotlin.Shown
import FluentKotlin.Kotlin.Code.Format
import FluentKotlin.Domain.MapGroup
import FluentKotlin.Domain.TypeRef
import FluentKotlin.Domain.Basic
import FluentKotlin.Settings
import FluentKotlin.Domain.Naming
import FluentKotlin.Document.TypeToken
import FluentKotlin.Document.TypeTree
import FluentKotlin.Document.Registry
import FluentKotlin.Kotlin.Declaration
import FluentKotlin.Kotlin.Reference
import FluentKotlin.Kotlin.Import
import FluentKotlin.Kotlin.Draft
import FluentKotlin.Path
import FluentKotlin.Kotlin.Layout
import FluentKotlin.Kotlin.DeclarationShown
import FluentKotlin.Kotlin.Bench
import FluentKotlin.Report.Basic
import FluentKotlin.Report.Journal
import FluentKotlin.Stateful
import FluentKotlin.Report.Journaling
import FluentKotlin.Schema.Basic
import FluentKotlin.Schema.Accessor
import FluentKotlin.Schema.Classify
import FluentKotlin.Generation.Fault
import FluentKotlin.Generation.Group
import FluentKotlin.Generation.BuilderFile
import FluentKotlin.Generation.RootFile
import FluentKotlin.Generation.Pass
import FluentKotlin.Generation.Generate
import FluentKotlin.Document.Fault
import FluentKotlin.Document.Field
import FluentKotlin.Document.Heading
import FluentKotlin.Document.Transform
import FluentKotlin.Document.Property
import FluentKotlin.Document.Basic
import FluentKotlin.Value.Calendar
import FluentKotlin.Yaml.Token
import FluentKotlin.Yaml.ScalarError
import FluentKotlin.Yaml.Tag
import FluentKotlin.Yaml.Flaw
import FluentKotlin.Yaml.Number
import FluentKotlin.Yaml.Stamp
import FluentKotlin.Yaml.Sextet
import FluentKotlin.Yaml.Scalar
import FluentKotlin.Yaml.Cursor
import FluentKotlin.Yaml.Plain
import FluentKotlin.Yaml.Quoted
import FluentKotlin.Yaml.Block
import FluentKotlin.Yaml.Property
import FluentKotlin.Yaml.Lexer
import FluentKotlin.Yaml.Node
import FluentKotlin.Yaml.Meaning
import FluentKotlin.Yaml.Content
import FluentKotlin.Yaml.Reading
import FluentKotlin.Document.Text
import FluentKotlin.Store.Basic
import FluentKotlin.Store.Name
import FluentKotlin.Store.Tree
import FluentKotlin.Command.Option
import FluentKotlin.Command.Usage
import FluentKotlin.Command.Word
import FluentKotlin.Command.Request
import FluentKotlin.Command.Ending
import FluentKotlin.Command.Run
import FluentKotlin.Main
import FluentKotlin.Proofs.Path
import FluentKotlin.Proofs.Kotlin.SimpleNames
import FluentKotlin.Proofs.Kotlin.QualifiedName
import FluentKotlin.Proofs.Domain.Denotation
import FluentKotlin.Proofs.Domain.Naming
import FluentKotlin.Proofs.Document.TypeGrammar
import FluentKotlin.Proofs.Document.TypeText
import FluentKotlin.Proofs.Document.Acceptance
import FluentKotlin.Proofs.Document.Entries
import FluentKotlin.Proofs.Schema.Forms
import FluentKotlin.Proofs.Report.Settled
import FluentKotlin.Proofs.Schema.Total
import FluentKotlin.Proofs.Schema.StoredType
import FluentKotlin.Proofs.Generation.Confined
import FluentKotlin.Proofs.Generation.Isolation
import FluentKotlin.Proofs.Generation.Completion
import FluentKotlin.Proofs.Generation.Shape
import FluentKotlin.Proofs.Generation.Linking
import FluentKotlin.Proofs.Generation.Mirrored
import FluentKotlin.Proofs.Generation.Collected
import FluentKotlin.Proofs.Store.Kept
import FluentKotlin.Proofs.Store.Grounded
import FluentKotlin.Proofs.Store.Name
import FluentKotlin.Proofs.Generation.Placement
import FluentKotlin.Proofs.Kotlin.Fitting
import FluentKotlin.Proofs.Generation.Rendering
import FluentKotlin.Proofs.Generation.Inside
import FluentKotlin.Proofs.Command.Generate
import FluentKotlin.Proofs.Kotlin.ImportOrder
import FluentKotlin.Proofs.Schema.Known
import FluentKotlin.Proofs.Schema.Order
import FluentKotlin.Proofs.Value.Renamed
import FluentKotlin.Proofs.Document.Renamed
import FluentKotlin.Proofs.Document.Registered
import FluentKotlin.Proofs.Document.Reordered
import FluentKotlin.Proofs.Generation.Reordered
import FluentKotlin.Proofs.Text.WordCharacter
import FluentKotlin.Proofs.Document.NameToken
import FluentKotlin.Proofs.Document.Resolution
import FluentKotlin.Proofs.Document.TypeNotation
import FluentKotlin.Proofs.Document.Sections
import FluentKotlin.Proofs.Document.RoundTrip
import FluentKotlin.Proofs.Document.Escape
import FluentKotlin.Proofs.Document.Slips
import FluentKotlin.Proofs.Document.Unexplained
import FluentKotlin.Proofs.Report.Performed
import FluentKotlin.Proofs.Generation.Debugging
import FluentKotlin.Proofs.Kotlin.Work
import FluentKotlin.Proofs.Kotlin.Printed
import FluentKotlin.Proofs.Kotlin.Mention
import FluentKotlin.Proofs.Kotlin.ImportSet
import FluentKotlin.Proofs.Kotlin.Formatted
import FluentKotlin.Proofs.Kotlin.Seam
import FluentKotlin.Proofs.Schema.Template
import FluentKotlin.Proofs.Schema.StringDefault
import FluentKotlin.Proofs.Document.Lookup
import FluentKotlin.Proofs.Document.Duplicates
import FluentKotlin.Proofs.Document.Frontmatter
import FluentKotlin.Proofs.Document.FullName
import FluentKotlin.Proofs.Text.Lines
import FluentKotlin.Proofs.Kotlin.Layout
import FluentKotlin.Proofs.Kotlin.CarriageReturn
import FluentKotlin.Proofs.Generation.LineEnds
import FluentKotlin.Proofs.Schema.TransformInput
import FluentKotlin.Proofs.Together
import FluentKotlin.Proofs.Document.DefaultForms
import FluentKotlin.Proofs.Schema.Accessor
import FluentKotlin.Proofs.Schema.Warnings
import FluentKotlin.Proofs.Schema.Independence
import FluentKotlin.Proofs.Generation.Clashes
import FluentKotlin.Proofs.Report.Guides
import FluentKotlin.Proofs.Kotlin.Attempt
import FluentKotlin.Proofs.Generation.Redundant
import FluentKotlin.Proofs.Generation.Advertised
import FluentKotlin.Proofs.Kotlin.CanonicalName
import FluentKotlin.Proofs.Document.Lexeme
