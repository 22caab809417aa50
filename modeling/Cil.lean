import Cil.Cancellation
import Cil.Command.Arguments
import Cil.Command.Response
import Cil.Decimal.Shortest
import Cil.Entity
import Cil.Error
import Cil.Json.Decoder
import Cil.Json.Lexeme
import Cil.Json.Numeral
import Cil.Json.Piece
import Cil.Json.Value
import Cil.Language.Basic
import Cil.Language.Builtin
import Cil.Language.Registry
import Cil.Listing.Assembly
import Cil.Listing.Body
import Cil.Listing.Handler
import Cil.Listing.Instruction
import Cil.Listing.Item
import Cil.Listing.Member
import Cil.Listing.Nesting
import Cil.Listing.Run
import Cil.Listing.TypeDef
import Cil.Listing.TypeName
import Cil.Main
import Cil.Metadata.Assembly
import Cil.Metadata.Body
import Cil.Metadata.Diagnostic
import Cil.Metadata.Document
import Cil.Metadata.Member
import Cil.Metadata.TypeDef
import Cil.Metadata.TypeRef
import Cil.Name
import Cil.Proofs.Blocks
import Cil.Proofs.Brackets
import Cil.Proofs.Cancellation
import Cil.Proofs.Composition
import Cil.Proofs.Digits
import Cil.Proofs.Escapes
import Cil.Proofs.Failures
import Cil.Proofs.Formats
import Cil.Proofs.Grammar
import Cil.Proofs.Grouping
import Cil.Proofs.Handlers
import Cil.Proofs.Headings
import Cil.Proofs.Heights
import Cil.Proofs.Layout
import Cil.Proofs.LineFeeds
import Cil.Proofs.Lines
import Cil.Proofs.Linking
import Cil.Proofs.Lookup
import Cil.Proofs.Namespaces
import Cil.Proofs.Recorded
import Cil.Proofs.Selection
import Cil.Proofs.Sharing
import Cil.Proofs.Shown
import Cil.Proofs.Sinks
import Cil.Proofs.StoredOrder
import Cil.Proofs.Styles
import Cil.Proofs.Texts
import Cil.Proofs.TypeNames
import Cil.Selector
import Cil.Text.Export
import Cil.Text.Hex
import Cil.Text.Quoted
import Cil.Text.Record
import Cil.Text.Token
import Cil.Unicode.Alphanumeric
import Cil.Unicode.Lowercase
import Cil.Unicode.Ranges
import Cil.Unicode.Visible
