import ShellStyle.Check
import ShellStyle.Command.Arguments
import ShellStyle.Command.Flag
import ShellStyle.Command.Print
import ShellStyle.Command.Run
import ShellStyle.Decimal.Binary64
import ShellStyle.Decimal.Numeral
import ShellStyle.Decimal.Shortest
import ShellStyle.Diff.Match
import ShellStyle.Diff.Unified
import ShellStyle.Emoji.Code
import ShellStyle.Emoji.Table
import ShellStyle.File.Config
import ShellStyle.File.Glob
import ShellStyle.File.Path
import ShellStyle.File.Report
import ShellStyle.File.Script
import ShellStyle.File.SystemError
import ShellStyle.File.Tree
import ShellStyle.Fix.Brackets
import ShellStyle.Fix.Guard
import ShellStyle.Fix.Layout
import ShellStyle.Fix.Line
import ShellStyle.Fix.Spacing
import ShellStyle.Fix.TestCommand
import ShellStyle.Layout.Grid
import ShellStyle.Layout.Handler
import ShellStyle.Layout.Markup
import ShellStyle.Layout.Panel
import ShellStyle.Layout.Plain
import ShellStyle.Layout.Style
import ShellStyle.Layout.Wrap
import ShellStyle.Library
import ShellStyle.Line.Comment
import ShellStyle.Line.Context
import ShellStyle.Line.Continuation
import ShellStyle.Line.Form
import ShellStyle.Line.Heredoc
import ShellStyle.Line.Token
import ShellStyle.Literal.Expression
import ShellStyle.Literal.NameChar
import ShellStyle.Literal.Node
import ShellStyle.Literal.Number
import ShellStyle.Literal.Quoted
import ShellStyle.Literal.Token
import ShellStyle.Log
import ShellStyle.Machine
import ShellStyle.Main
import ShellStyle.Proofs.Batch
import ShellStyle.Proofs.Cleared
import ShellStyle.Proofs.CommentStart
import ShellStyle.Proofs.Comments
import ShellStyle.Proofs.Commuting
import ShellStyle.Proofs.Delimiters
import ShellStyle.Proofs.Edits
import ShellStyle.Proofs.FixCount
import ShellStyle.Proofs.Fixers
import ShellStyle.Proofs.Frame
import ShellStyle.Proofs.FunctionBlock
import ShellStyle.Proofs.HeredocBlock
import ShellStyle.Proofs.HeredocReading
import ShellStyle.Proofs.Issues
import ShellStyle.Proofs.LineBreak
import ShellStyle.Proofs.Lookup
import ShellStyle.Proofs.Margin
import ShellStyle.Proofs.Memory
import ShellStyle.Proofs.Nesting
import ShellStyle.Proofs.Opener
import ShellStyle.Proofs.Operators
import ShellStyle.Proofs.Outside
import ShellStyle.Proofs.Parts
import ShellStyle.Proofs.Pipes
import ShellStyle.Proofs.Plan
import ShellStyle.Proofs.Protected
import ShellStyle.Proofs.QuoteReaders
import ShellStyle.Proofs.QuotedPipes
import ShellStyle.Proofs.Reading
import ShellStyle.Proofs.Replace
import ShellStyle.Proofs.Resolution
import ShellStyle.Proofs.Resolved
import ShellStyle.Proofs.Seams
import ShellStyle.Proofs.Segments
import ShellStyle.Proofs.Shape
import ShellStyle.Proofs.Showable
import ShellStyle.Proofs.SingleBrackets
import ShellStyle.Proofs.Solid
import ShellStyle.Proofs.Source
import ShellStyle.Proofs.Spacing
import ShellStyle.Proofs.Stability
import ShellStyle.Proofs.Strings
import ShellStyle.Proofs.Text
import ShellStyle.Proofs.Totality
import ShellStyle.Proofs.Unchanged
import ShellStyle.Proofs.Unindented
import ShellStyle.Proofs.Utf8
import ShellStyle.Proofs.Words
import ShellStyle.Quote
import ShellStyle.Rule
import ShellStyle.Script.Format
import ShellStyle.Script.Lint
import ShellStyle.Script.Pipe
import ShellStyle.Script.Record
import ShellStyle.Script.Safety
import ShellStyle.Script.Tracker
import ShellStyle.Settings.Basic
import ShellStyle.Settings.Resolve
import ShellStyle.Severity
import ShellStyle.Shown
import ShellStyle.Span
import ShellStyle.StyleError
import ShellStyle.Text.Blank
import ShellStyle.Text.Casing
import ShellStyle.Text.Cluster
import ShellStyle.Text.DecimalDigit
import ShellStyle.Text.Hexadecimal
import ShellStyle.Text.LowerCase
import ShellStyle.Text.Printable
import ShellStyle.Text.Quoted
import ShellStyle.Text.Ranges
import ShellStyle.Text.Search
import ShellStyle.Text.Utf8
import ShellStyle.Text.Width
import ShellStyle.Text.Word
import ShellStyle.Text.WordChar
import ShellStyle.Value
import ShellStyle.Yaml.BlockText
import ShellStyle.Yaml.Cursor
import ShellStyle.Yaml.Document
import ShellStyle.Yaml.Node
import ShellStyle.Yaml.Scalar
import ShellStyle.Yaml.ScalarText
import ShellStyle.Yaml.Tag
import ShellStyle.Yaml.Token
