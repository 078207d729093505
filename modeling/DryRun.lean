import DryRun.Command.Files
import DryRun.Command.Options
import DryRun.Command.Request
import DryRun.Command.Run
import DryRun.Console.Emoji
import DryRun.Console.EmojiTable
import DryRun.Console.Grid
import DryRun.Console.Markup
import DryRun.Console.Panel
import DryRun.Console.Report
import DryRun.Console.Style
import DryRun.Console.Wrap
import DryRun.Grammar.Alter
import DryRun.Grammar.Call
import DryRun.Grammar.Change
import DryRun.Grammar.Column
import DryRun.Grammar.Control
import DryRun.Grammar.Create
import DryRun.Grammar.Item
import DryRun.Grammar.Maintenance
import DryRun.Grammar.Names
import DryRun.Grammar.Node
import DryRun.Grammar.Operand
import DryRun.Grammar.Operator
import DryRun.Grammar.Property
import DryRun.Grammar.Query
import DryRun.Grammar.Reader
import DryRun.Grammar.Signature
import DryRun.Grammar.Statement
import DryRun.Grammar.StatementKind
import DryRun.Grammar.Table
import DryRun.Grammar.Types
import DryRun.Grammar.Window
import DryRun.Job.Basic
import DryRun.Job.Json
import DryRun.Job.Report
import DryRun.Json.Basic
import DryRun.Json.Reader
import DryRun.Json.Shown
import DryRun.Json.Writer
import DryRun.Log.Format
import DryRun.Log.Message
import DryRun.Log.Record
import DryRun.Log.Root
import DryRun.Log.Timestamp
import DryRun.Main
import DryRun.Number.Places
import DryRun.Number.Real64
import DryRun.Number.Shortest
import DryRun.Provider
import DryRun.Reading.Definition
import DryRun.Reading.Insert
import DryRun.Session.Basic
import DryRun.Session.Transform
import DryRun.Settings.Basic
import DryRun.Settings.Dotenv
import DryRun.Settings.Load
import DryRun.Sql.Insert
import DryRun.Sql.Lexeme
import DryRun.Sql.Scan
import DryRun.Sql.Statement
import DryRun.Sql.TableHeader
import DryRun.Sql.Token
import DryRun.Sql.Words
import DryRun.Table.Mock
import DryRun.Table.Ref
import DryRun.Text.Basic
import DryRun.Text.CaseContext
import DryRun.Text.CellWidth
import DryRun.Text.Digit
import DryRun.Text.LowerCase
import DryRun.Text.Printable
import DryRun.Text.Quoted
import DryRun.Text.UpperCase
import DryRun.Text.Utf8
import DryRun.Text.WordChar
import DryRun.Validation.Basic
import DryRun.Validation.Describe
import DryRun.Proofs.Mock.Agreement
import DryRun.Proofs.Mock.Definition
import DryRun.Proofs.Mock.Name
import DryRun.Proofs.Mock.Target
import DryRun.Proofs.Reading.Definition
import DryRun.Proofs.Reading.Insert
import DryRun.Proofs.Session.Prepare
import DryRun.Proofs.Sql.Headers
import DryRun.Proofs.Sql.Locality
import DryRun.Proofs.Sql.Lookahead
import DryRun.Proofs.Sql.Phrases
import DryRun.Proofs.Sql.Reads
import DryRun.Proofs.Sql.Shape
import DryRun.Proofs.Sql.Splice
import DryRun.Proofs.Text.Classes
import DryRun.Proofs.Text.Words
import DryRun.Proofs.Sql.Places
import DryRun.Proofs.Mock.Redirect
import DryRun.Proofs.Reading.Tail
import DryRun.Proofs.Session.Options
import DryRun.Proofs.Session.Correspondence
import DryRun.Proofs.Session.Runs
import DryRun.Proofs.Session.Named
import DryRun.Proofs.Session.Repeated
import DryRun.Proofs.Session.Order
import DryRun.Proofs.Console.Markup
import DryRun.Proofs.Command.JobFile
import DryRun.Proofs.Json.RoundTrip
import DryRun.Proofs.Text.Utf8
import DryRun.Proofs.Job.RoundTrip
import DryRun.Proofs.Command.Delivered
import DryRun.Proofs.Provider.Sharing
import DryRun.Proofs.Mock.Connector
import DryRun.Proofs.Command.Reloading
import DryRun.Proofs.Reading.Verbatim
import DryRun.Proofs.Sql.Nesting
import DryRun.Proofs.Reading.InsertSyntax
import DryRun.Proofs.Reading.Span
import DryRun.Proofs.Reading.Columns
import DryRun.Proofs.Reading.Check
import DryRun.Proofs.Reading.ColumnList
import DryRun.Proofs.Reading.Indentation
import DryRun.Proofs.Session.Notices
import DryRun.Proofs.Console.Emoji
import DryRun.Proofs.Console.Grid
import DryRun.Proofs.Console.Rows
import DryRun.Proofs.Console.Verbatim
import DryRun.Proofs.Log.Handlers
import DryRun.Proofs.Log.Lines
import DryRun.Proofs.Sql.Matching
