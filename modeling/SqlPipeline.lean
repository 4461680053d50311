import SqlPipeline.Sql.Statement
import SqlPipeline.Sql.TableName
import SqlPipeline.Sql.KeyPredicate
import SqlPipeline.Sql.Placeholder
import SqlPipeline.Number.Numeral
import SqlPipeline.Number.Binary64
import SqlPipeline.Number.Shortest
import SqlPipeline.Number.RealText
import SqlPipeline.Number.Decimal
import SqlPipeline.Time.Date
import SqlPipeline.Time.Clock
import SqlPipeline.Time.Stamp
import SqlPipeline.Time.Span
import SqlPipeline.Time.Layout
import SqlPipeline.Time.Iso
import SqlPipeline.Time.Reading
import SqlPipeline.Time.Epoch
import SqlPipeline.Bytes.Utf8
import SqlPipeline.Bytes.Base64
import SqlPipeline.Text.Quoted
import SqlPipeline.Uuid
import SqlPipeline.Value.Display
import SqlPipeline.Value.Number
import SqlPipeline.Wire.Argument
import SqlPipeline.Wire.Cell
import SqlPipeline.Result.Column
import SqlPipeline.Parameter.Collection
import SqlPipeline.Json.Reader
import SqlPipeline.Json.Printer
import SqlPipeline.Batch.Building
import SqlPipeline.Reply.Affected
import SqlPipeline.Reply.Scalar
import SqlPipeline.Reply.Tables
import SqlPipeline.Value.Cast
import SqlPipeline.Result.Reader
import SqlPipeline.Url.Basic
import SqlPipeline.ConnectionString
import SqlPipeline.Environment
import SqlPipeline.Reply.Answer
import SqlPipeline.Facade.Basic
import SqlPipeline.CommandLine
import SqlPipeline.Main
import SqlPipeline.Proofs.Text.Decimal
import SqlPipeline.Proofs.Text.Cut
import SqlPipeline.Proofs.Number.Integer
import SqlPipeline.Proofs.Bytes.Base64
import SqlPipeline.Proofs.Uuid
import SqlPipeline.Proofs.Time.Calendar
import SqlPipeline.Proofs.Time.StoredStamp
import SqlPipeline.Proofs.Time.StoredSpan
import SqlPipeline.Proofs.Wire.Cell
import SqlPipeline.Proofs.Value.Fidelity
import SqlPipeline.Proofs.Reply.Echo
import SqlPipeline.Proofs.Batch.Modification
import SqlPipeline.Proofs.Reply.Concurrency
import SqlPipeline.Proofs.Reply.Silence
import SqlPipeline.Proofs.Reply.Insertion
import SqlPipeline.Proofs.Sql.Literal
import SqlPipeline.Proofs.Sql.Lexeme
import SqlPipeline.Proofs.Sql.KeyPredicate
import SqlPipeline.Proofs.Sql.TableName
import SqlPipeline.Proofs.Batch.Binding
import SqlPipeline.Proofs.Sql.KeyedStatement
import SqlPipeline.Proofs.Batch.Keyed
import SqlPipeline.Proofs.Sql.NamedKey
import SqlPipeline.Proofs.Batch.KeyArgument
import SqlPipeline.Proofs.Result.Regular
import SqlPipeline.Proofs.Reply.Tabulation
import SqlPipeline.Proofs.Value.Refusal
import SqlPipeline.Proofs.Result.Tour
import SqlPipeline.Proofs.Session.Operation
import SqlPipeline.Proofs.Session.Run
import SqlPipeline.Proofs.Json.Short
import SqlPipeline.Proofs.Wire.Response
import SqlPipeline.Proofs.Wire.Undecodable
import SqlPipeline.Proofs.Reply.Settlement
import SqlPipeline.Proofs.Reply.Escape
import SqlPipeline.Proofs.Session.Settlement
import SqlPipeline.Proofs.Session.Action
import SqlPipeline.Proofs.Session.Lifecycle
import SqlPipeline.Proofs.Session.Refusal
import SqlPipeline.Proofs.Facade.Naming
import SqlPipeline.Proofs.Sql.Filling
import SqlPipeline.Proofs.Sql.Positional
import SqlPipeline.Proofs.Facade.Position
import SqlPipeline.Proofs.Batch.Shape
import SqlPipeline.Proofs.Sql.Renumbering
import SqlPipeline.Proofs.Sql.Reversal
import SqlPipeline.Proofs.Batch.Attachment
import SqlPipeline.Proofs.Number.Overflow
import SqlPipeline.Proofs.Value.Overlong
import SqlPipeline.Proofs.Wire.Encoding
import SqlPipeline.Proofs.Reply.Agreement
import SqlPipeline.Proofs.Session.Ways
import SqlPipeline.Proofs.Session.Asking
import SqlPipeline.Proofs.Reply.Acceptance
import SqlPipeline.Proofs.Batch.Body
import SqlPipeline.Proofs.Session.Secrecy
import SqlPipeline.Proofs.Number.Spelling
import SqlPipeline.Proofs.Number.Ratio
import SqlPipeline.Proofs.Number.Order
import SqlPipeline.Proofs.Time.Extent
import SqlPipeline.Proofs.Time.JulianDay
import SqlPipeline.Proofs.Value.Denotation
import SqlPipeline.Proofs.Value.Width
import SqlPipeline.Proofs.Wire.Contents
import SqlPipeline.Proofs.Result.Holding
import SqlPipeline.Proofs.Reply.Contents
import SqlPipeline.Proofs.Value.Escape
import SqlPipeline.Proofs.Result.Getter
import SqlPipeline.Proofs.Wire.IntegerArgument
import SqlPipeline.Proofs.Wire.Decoding
import SqlPipeline.Proofs.Text.Order
import SqlPipeline.Proofs.Time.Sorting
import SqlPipeline.Proofs.Time.Layout
import SqlPipeline.Proofs.Time.Reading
import SqlPipeline.Proofs.Result.Instant
import SqlPipeline.Proofs.ConnectionString.Rendering
import SqlPipeline.Proofs.Url.Components
import SqlPipeline.Proofs.ConnectionString.ReadOnly
import SqlPipeline.Proofs.ConnectionString.Address
import SqlPipeline.Proofs.Reply.Selection
import SqlPipeline.Proofs.Batch.RowQuery
import SqlPipeline.Proofs.Sql.Announcement
import SqlPipeline.Proofs.Batch.ConflictClause
import SqlPipeline.Proofs.Wire.Respelling
import SqlPipeline.Proofs.Parameter.History
import SqlPipeline.Proofs.Result.Renaming
import SqlPipeline.Proofs.Parameter.Access
