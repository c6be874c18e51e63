import HtmlComponents.Component.Parts
import HtmlComponents.Markup.Html
import HtmlComponents.Markup.Walk
import HtmlComponents.Rendering
import HtmlComponents.Text.Identifier
import HtmlComponents.TypeName
import HtmlComponents.FileSystem.Fault
import HtmlComponents.FileSystem.Path
import HtmlComponents.FileSystem.Operation
import HtmlComponents.Style.Aggregation
import HtmlComponents.View.Number
import HtmlComponents.View.Quotation
import HtmlComponents.View.Token
import HtmlComponents.View.Lexer
import HtmlComponents.View.Builder
import HtmlComponents.View.Error
import HtmlComponents.View.Reading
import HtmlComponents.View.Expression.Transcript
import HtmlComponents.View.Expression.Pattern
import HtmlComponents.View.Expression.Operand
import HtmlComponents.View.Expression
import HtmlComponents.View
import HtmlComponents.Proofs.Arena
import HtmlComponents.Proofs.Run
import HtmlComponents.Proofs.WellFormed
import HtmlComponents.Proofs.NormalForm
import HtmlComponents.Proofs.Reading
import HtmlComponents.Proofs.Graft
import HtmlComponents.Proofs.Emission
import HtmlComponents.Proofs.Picture
import HtmlComponents.Proofs.Direct
import HtmlComponents.Proofs.Grammar
import HtmlComponents.Proofs.Aggregation
import HtmlComponents.Proofs.Interleaving
import HtmlComponents.Proofs.History
import HtmlComponents.Proofs.Growth
import HtmlComponents.Proofs.Listing
import HtmlComponents.Proofs.Delimiters
import HtmlComponents.Proofs.Refusal
import HtmlComponents.Proofs.Insertion
import HtmlComponents.Proofs.Traversal
import HtmlComponents.Proofs.VoidStyle
import HtmlComponents.Proofs.Chain
import HtmlComponents.Proofs.Acceptance
import HtmlComponents.Proofs.Inheritance
import HtmlComponents.Proofs.Steadiness
import HtmlComponents.Proofs.Wrapping
import HtmlComponents.Proofs.Disabling
import HtmlComponents.Proofs.Succession
import HtmlComponents.Proofs.Counting
import HtmlComponents.Proofs.Blocked
import HtmlComponents.Proofs.Chronicle
import HtmlComponents.Proofs.Settings
import HtmlComponents.Proofs.Plan
import HtmlComponents.Proofs.Classes
import HtmlComponents.Proofs.Spelling
import HtmlComponents.Proofs.ShortName
