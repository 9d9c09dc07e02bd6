import Clausal.Calendar.Date
import Clausal.Calendar.Format
import Clausal.Calendar.Reading
import Clausal.Cast
import Clausal.Columns
import Clausal.Condition
import Clausal.Database.Action
import Clausal.Database.Adapter
import Clausal.Database.Event
import Clausal.Database.Log
import Clausal.Database.Script
import Clausal.Declaration
import Clausal.Error
import Clausal.Finder
import Clausal.Json
import Clausal.Json.Reading
import Clausal.Json.Values
import Clausal.Number.Binary64
import Clausal.Number.Digit
import Clausal.Number.Layout
import Clausal.Number.Numeral
import Clausal.Number.Shortest
import Clausal.Number.Signed
import Clausal.Proofs.Columns
import Clausal.Proofs.Database.Running
import Clausal.Proofs.Failure
import Clausal.Proofs.Query.Alignment
import Clausal.Proofs.Query.Building
import Clausal.Proofs.Query.Injection
import Clausal.Proofs.Query.Kind
import Clausal.Proofs.Query.Names
import Clausal.Proofs.Query.Order
import Clausal.Proofs.Query.Preparing
import Clausal.Proofs.Query.Rewriting
import Clausal.Proofs.Query.RewritingCalls
import Clausal.Proofs.Query.Tokens
import Clausal.Proofs.Query.Vocabulary
import Clausal.Proofs.Sql.Binding
import Clausal.Proofs.Sql.Lexemes
import Clausal.Proofs.Sql.Lexer
import Clausal.Proofs.Sql.Rendering
import Clausal.Proofs.Text.LetterCase
import Clausal.Proofs.Value
import Clausal.Query
import Clausal.Query.Assemble
import Clausal.Query.Prepare
import Clausal.Query.Run
import Clausal.Record
import Clausal.Record.Attributes
import Clausal.Record.Declared
import Clausal.Row
import Clausal.Sql.Piece
import Clausal.Sql.Quoted
import Clausal.Sql.Template
import Clausal.Statement
import Clausal.Text.Blank
import Clausal.Text.ByteLength
import Clausal.Text.CaseTable
import Clausal.Text.ClassTable
import Clausal.Text.LetterCase
import Clausal.Text.Reader
import Clausal.Text.Separated
import Clausal.Text.Snake
import Clausal.Value
import Clausal.Proofs.Query.Final
import Clausal.Proofs.Query.Faults
import Clausal.Proofs.Database.Recording
import Clausal.Proofs.Query.Delivery
import Clausal.Proofs.Record.Memo
import Clausal.Proofs.Record.Statements
import Clausal.Proofs.Record.Saving
import Clausal.Proofs.Record.Lifecycle
import Clausal.Proofs.Record.Identity
import Clausal.Proofs.Record.Casting
import Clausal.Proofs.Record.Declaring
import Clausal.Proofs.Finder.Grammar
import Clausal.Proofs.Finder.Naming
import Clausal.Proofs.Finder.Grouping
import Clausal.Proofs.Finder.Applying
import Clausal.Proofs.Sql.Formula
import Clausal.Proofs.Query.Isolation
import Clausal.Proofs.Json.Decoding
import Clausal.Proofs.Json.Rows
import Clausal.Proofs.Query.Heads
import Clausal.Proofs.Database.Clients
import Clausal.Proofs.Record.Logging
import Clausal.Proofs.Sql.Constants
import Clausal.Proofs.Sql.Expressions
import Clausal.Proofs.Sql.Writing
import Clausal.Proofs.Query.Positions
import Clausal.Proofs.Query.Insertions
import Clausal.Proofs.Query.Mapping
import Clausal.Proofs.Query.Segments
import Clausal.Proofs.Sql.Substitution
import Clausal.Proofs.Calendar.Stored
import Clausal.Proofs.Calendar.LeapSecond
import Clausal.Proofs.Cast
import Clausal.Proofs.Query.Target
import Clausal.Proofs.Record.Consulting
import Clausal.Proofs.Record.Copies
import Clausal.Proofs.Number.Unsigned
import Clausal.Proofs.Query.Holding
import Clausal.Proofs.Query.Standing
import Clausal.Proofs.Query.Unsigned
import Clausal.Proofs.Number.Digits
import Clausal.Proofs.Number.Grammar
import Clausal.Proofs.Number.Bytes
import Clausal.Proofs.Number.Reading
import Clausal.Proofs.Number.Leading
import Clausal.Proofs.Number.Truncation
import Clausal.Proofs.Number.Decimal
import Clausal.Proofs.Record.Creating
import Clausal.Proofs.Json.Entries
import Clausal.Proofs.Row
import Clausal.Proofs.Query.Merging
import Clausal.Proofs.Query.Assembling
