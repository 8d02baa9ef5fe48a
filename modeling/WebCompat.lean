import WebCompat.CommandLine.Flag
import WebCompat.CommandLine.Given
import WebCompat.CommandLine.Invocation
import WebCompat.CommandLine.Reader
import WebCompat.CommandLine.Stop
import WebCompat.CommandLine.Writer
import WebCompat.Config.Basic
import WebCompat.Config.File
import WebCompat.Dictionary
import WebCompat.Failure
import WebCompat.FileSystem
import WebCompat.Guidance.Builtin
import WebCompat.Guidance.Client
import WebCompat.Guidance.Reply
import WebCompat.Guidance.Request
import WebCompat.Guidance.Settings
import WebCompat.Guidance.Target
import WebCompat.Ignore.Glob
import WebCompat.Ignore.Level
import WebCompat.Ignore.Rule
import WebCompat.Issue.Advice
import WebCompat.Issue.Basic
import WebCompat.Issue.Diagnostic
import WebCompat.Json.Number
import WebCompat.Json.Printer
import WebCompat.Json.Reader
import WebCompat.Json.Record
import WebCompat.Json.Value
import WebCompat.Knowledge.Base
import WebCompat.Knowledge.Curated
import WebCompat.Knowledge.Dataset
import WebCompat.Knowledge.Descriptor
import WebCompat.Knowledge.Feature
import WebCompat.Knowledge.Hit
import WebCompat.Knowledge.Sample
import WebCompat.Knowledge.Status
import WebCompat.Knowledge.Summary
import WebCompat.Main
import WebCompat.Number.Binary
import WebCompat.Number.Shortest
import WebCompat.Path
import WebCompat.Program
import WebCompat.Proofs.CommandLine.RoundTrip
import WebCompat.Proofs.Config.Fields
import WebCompat.Proofs.Dictionary
import WebCompat.Proofs.FileSystem
import WebCompat.Proofs.Guidance.Advising
import WebCompat.Proofs.Guidance.Reply
import WebCompat.Proofs.Guidance.Request
import WebCompat.Proofs.Guidance.Section
import WebCompat.Proofs.Issue.Board
import WebCompat.Proofs.Issue.Underline
import WebCompat.Proofs.Json.Literal
import WebCompat.Proofs.Json.Record
import WebCompat.Proofs.Json.RoundTrip
import WebCompat.Proofs.Knowledge.Agreement
import WebCompat.Proofs.Knowledge.Base
import WebCompat.Proofs.Knowledge.Layouts
import WebCompat.Proofs.Knowledge.Matchers
import WebCompat.Proofs.Knowledge.Precedence
import WebCompat.Proofs.Markup.Scripts
import WebCompat.Proofs.Markup.Site
import WebCompat.Proofs.Number.Literal
import WebCompat.Proofs.Path
import WebCompat.Proofs.Program.Credential
import WebCompat.Proofs.Program.Inputs
import WebCompat.Proofs.Report.Document
import WebCompat.Proofs.Report.Plain
import WebCompat.Proofs.Scan.Growth
import WebCompat.Proofs.Scan.LineEndings
import WebCompat.Proofs.Scan.MarkupColumns
import WebCompat.Proofs.Scan.MarkupLines
import WebCompat.Proofs.Scan.Place
import WebCompat.Proofs.Scan.PlainCoverage
import WebCompat.Proofs.Scan.PlainOrder
import WebCompat.Proofs.Scan.SingleUse
import WebCompat.Proofs.Scan.TreeOrder
import WebCompat.Proofs.Script.Layout
import WebCompat.Proofs.Session
import WebCompat.Proofs.Text.Blank
import WebCompat.Proofs.Text.ByteOrder
import WebCompat.Proofs.Text.Lowercase
import WebCompat.Proofs.Text.Occurrence
import WebCompat.Proofs.Text.Position
import WebCompat.Proofs.Walk
import WebCompat.Report.Counts
import WebCompat.Report.Document
import WebCompat.Report.Plain
import WebCompat.Report.Time
import WebCompat.Scan.Lines
import WebCompat.Scan.Markup
import WebCompat.Scan.Path
import WebCompat.Scan.Source
import WebCompat.Scan.SourceKind
import WebCompat.Scan.Tree
import WebCompat.Script.Dialect
import WebCompat.Script.Grammar.Atom
import WebCompat.Script.Grammar.Class
import WebCompat.Script.Grammar.Declaration
import WebCompat.Script.Grammar.Dotted
import WebCompat.Script.Grammar.Element
import WebCompat.Script.Grammar.Expression
import WebCompat.Script.Grammar.Function
import WebCompat.Script.Grammar.Group
import WebCompat.Script.Grammar.Literal
import WebCompat.Script.Grammar.Module
import WebCompat.Script.Grammar.Rule
import WebCompat.Script.Grammar.Statement
import WebCompat.Script.Grammar.TypeExpr
import WebCompat.Script.Lexeme
import WebCompat.Script.Parse
import WebCompat.Script.Reader
import WebCompat.Script.Reading
import WebCompat.Script.Semicolon
import WebCompat.Script.Tree
import WebCompat.Session
import WebCompat.Text.Blank
import WebCompat.Text.Lines
import WebCompat.Text.Lowercase
import WebCompat.Text.Occurrence
import WebCompat.Text.Position
import WebCompat.Text.Ranges
import WebCompat.Text.Word
import WebCompat.Toml.Reader
import WebCompat.Toml.Record
import WebCompat.Toml.Scalar
import WebCompat.Toml.Table
import WebCompat.Toml.Value
import WebCompat.Walk
import WebCompat.Proofs.Script.Address
import WebCompat.Proofs.Script.Tour
import WebCompat.Proofs.Scan.TreeTour
import WebCompat.Proofs.Scan.KnownNames
import WebCompat.Proofs.Scan.Boundary
