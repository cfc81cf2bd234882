import Mailroom.Cli.Command
import Mailroom.Cli.Console
import Mailroom.Cli.Grammar
import Mailroom.Cli.Run
import Mailroom.Config.Check
import Mailroom.Config.Error
import Mailroom.Config.Load
import Mailroom.Config.Settings
import Mailroom.Dialogue.Basic
import Mailroom.Directory.Client
import Mailroom.Directory.Error
import Mailroom.Directory.Record
import Mailroom.Directory.Request
import Mailroom.Failure
import Mailroom.Filter.Expr
import Mailroom.Filter.Syntax
import Mailroom.Filter.Token
import Mailroom.Imap.Command
import Mailroom.Imap.Connection
import Mailroom.Imap.Fetch
import Mailroom.Imap.Flag
import Mailroom.Imap.Folder
import Mailroom.Imap.MailboxName
import Mailroom.Imap.Session
import Mailroom.Imap.Wire
import Mailroom.Json.Basic
import Mailroom.Json.Misuse
import Mailroom.Json.Printer
import Mailroom.Json.Reader
import Mailroom.Log.Entry
import Mailroom.Mail.Compose
import Mailroom.Mail.Date
import Mailroom.Mail.Letter
import Mailroom.Mail.Message
import Mailroom.Mail.Outgoing
import Mailroom.Mail.Page
import Mailroom.Mail.Snapshot
import Mailroom.Mail.TransportError
import Mailroom.Main
import Mailroom.Mime.Address
import Mailroom.Mime.Body
import Mailroom.Mime.DateField
import Mailroom.Mime.EncodedWord
import Mailroom.Mime.Entity
import Mailroom.Mime.Field
import Mailroom.Mime.Glyph
import Mailroom.Mime.MessageId
import Mailroom.Mime.Parameter
import Mailroom.Mime.Phrase
import Mailroom.Number.Binary64
import Mailroom.Number.Notation
import Mailroom.Number.Reading
import Mailroom.Proofs.Config.Overlay
import Mailroom.Proofs.Config.Reported
import Mailroom.Proofs.Config.Restated
import Mailroom.Proofs.Config.Schema
import Mailroom.Proofs.Dialogue.Alike
import Mailroom.Proofs.Dialogue.Program
import Mailroom.Proofs.Dialogue.Range
import Mailroom.Proofs.Dialogue.Run
import Mailroom.Proofs.Directory.Lookup
import Mailroom.Proofs.Directory.Omission
import Mailroom.Proofs.Directory.Pauses
import Mailroom.Proofs.Directory.Reading
import Mailroom.Proofs.Directory.Reported
import Mailroom.Proofs.Directory.Retries
import Mailroom.Proofs.Filter.Cursor
import Mailroom.Proofs.Filter.Grammar
import Mailroom.Proofs.Filter.RoundTrip
import Mailroom.Proofs.Filter.Spelling
import Mailroom.Proofs.Filter.Tokens
import Mailroom.Proofs.Filter.Viable
import Mailroom.Proofs.Imap.Errand
import Mailroom.Proofs.Imap.Estate
import Mailroom.Proofs.Imap.Faithful
import Mailroom.Proofs.Imap.FetchLayout
import Mailroom.Proofs.Imap.FlagArgument
import Mailroom.Proofs.Imap.FlagList
import Mailroom.Proofs.Imap.FolderLine
import Mailroom.Proofs.Imap.MailboxArgument
import Mailroom.Proofs.Imap.Mailserver
import Mailroom.Proofs.Imap.Numeral
import Mailroom.Proofs.Imap.Obliging
import Mailroom.Proofs.Imap.Parting
import Mailroom.Proofs.Imap.Reference
import Mailroom.Proofs.Imap.Selection
import Mailroom.Proofs.Imap.Utterance
import Mailroom.Proofs.Imap.Vocabulary
import Mailroom.Proofs.Mail.PageCount
import Mailroom.Proofs.Mail.Snapshot
import Mailroom.Proofs.Mime.DateNumbers
import Mailroom.Proofs.Mime.MediaHeaders
import Mailroom.Proofs.Mime.OrdinaryAddress
import Mailroom.Proofs.Mime.Readers
import Mailroom.Proofs.Mime.Structure
import Mailroom.Proofs.Number.Nearest
import Mailroom.Proofs.Number.Quotient
import Mailroom.Proofs.Reply.Judgement
import Mailroom.Proofs.Scan.Abiding
import Mailroom.Proofs.Scan.Account
import Mailroom.Proofs.Scan.Conduct
import Mailroom.Proofs.Scan.Course
import Mailroom.Proofs.Scan.FinalState
import Mailroom.Proofs.Scan.Footprint
import Mailroom.Proofs.Scan.Holding
import Mailroom.Proofs.Scan.Isolation
import Mailroom.Proofs.Scan.Keywords
import Mailroom.Proofs.Scan.Ledger
import Mailroom.Proofs.Scan.Listing
import Mailroom.Proofs.Scan.Marker
import Mailroom.Proofs.Scan.Moment
import Mailroom.Proofs.Scan.Once
import Mailroom.Proofs.Scan.Operation
import Mailroom.Proofs.Scan.Pairing
import Mailroom.Proofs.Scan.Plan
import Mailroom.Proofs.Scan.Recovery
import Mailroom.Proofs.Scan.Rounds
import Mailroom.Proofs.Scan.Sequence
import Mailroom.Proofs.Scan.Tally
import Mailroom.Proofs.Scan.Worklist
import Mailroom.Proofs.Service.Counting
import Mailroom.Proofs.Service.Farewell
import Mailroom.Proofs.Service.Filing
import Mailroom.Proofs.Service.Pages
import Mailroom.Proofs.Service.Sending
import Mailroom.Proofs.Service.Tagging
import Mailroom.Proofs.Smtp.Posting
import Mailroom.Proofs.Text.Lower
import Mailroom.Proofs.Text.Prefix
import Mailroom.Proofs.Text.Replace
import Mailroom.Proofs.Text.Trim
import Mailroom.Proofs.Text.Utf8
import Mailroom.Proofs.Text.Words
import Mailroom.Proofs.Thread.Markers
import Mailroom.Proofs.Thread.Pairs
import Mailroom.Proofs.Thread.Reply
import Mailroom.Proofs.Thread.Settled
import Mailroom.Proofs.Tools.Footprint
import Mailroom.Proofs.Web.KeyCheck
import Mailroom.Proofs.Web.Keyless
import Mailroom.Proofs.Yaml.Composing
import Mailroom.Proofs.Yaml.Constructing
import Mailroom.Proofs.Yaml.Lexing
import Mailroom.Reply.Answer
import Mailroom.Reply.Category
import Mailroom.Reply.Classifier
import Mailroom.Scan.Engine
import Mailroom.Scan.Report
import Mailroom.Service
import Mailroom.Simulation.Files
import Mailroom.Simulation.Offline
import Mailroom.Simulation.Script
import Mailroom.Simulation.World
import Mailroom.Smtp.Command
import Mailroom.Smtp.Exchange
import Mailroom.Text.Base64
import Mailroom.Text.Blank
import Mailroom.Text.Case
import Mailroom.Text.Charset
import Mailroom.Text.CharsetTable
import Mailroom.Text.DecimalDigit
import Mailroom.Text.Entity
import Mailroom.Text.EntityTable
import Mailroom.Text.Lines
import Mailroom.Text.LowerTables
import Mailroom.Text.Printable
import Mailroom.Text.Quoted
import Mailroom.Text.QuotedPrintable
import Mailroom.Text.Ranges
import Mailroom.Text.Replace
import Mailroom.Text.Similarity
import Mailroom.Text.Utf8
import Mailroom.Text.Uuencode
import Mailroom.Thread.Address
import Mailroom.Thread.Matching
import Mailroom.Thread.Subject
import Mailroom.Tools
import Mailroom.Web.Access
import Mailroom.Web.Query
import Mailroom.Web.Schedule
import Mailroom.Web.Server
import Mailroom.Yaml.Cursor
import Mailroom.Yaml.Document
import Mailroom.Yaml.Implicit
import Mailroom.Yaml.Lexeme
import Mailroom.Yaml.Lexer
import Mailroom.Yaml.Node
import Mailroom.Yaml.Token
import Mailroom.Yaml.Value
