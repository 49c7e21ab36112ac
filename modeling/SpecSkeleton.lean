import SpecSkeleton.Command.Locate
import SpecSkeleton.Command.Option
import SpecSkeleton.Command.Outcome
import SpecSkeleton.Command.Reach
import SpecSkeleton.Command.Run
import SpecSkeleton.Command.Scan
import SpecSkeleton.Command.Show
import SpecSkeleton.Diagnostic
import SpecSkeleton.Discovery
import SpecSkeleton.File.Find
import SpecSkeleton.File.Path
import SpecSkeleton.File.Pattern
import SpecSkeleton.File.Tree
import SpecSkeleton.Journal
import SpecSkeleton.Keyword.Line
import SpecSkeleton.Keyword.Name
import SpecSkeleton.Kind
import SpecSkeleton.Level
import SpecSkeleton.Main
import SpecSkeleton.Markup.Color
import SpecSkeleton.Markup.Handler
import SpecSkeleton.Markup.Literal
import SpecSkeleton.Markup.Literal.Token
import SpecSkeleton.Markup.Picture
import SpecSkeleton.Markup.PictureTable
import SpecSkeleton.Markup.Plain
import SpecSkeleton.Markup.Style
import SpecSkeleton.Markup.Tag
import SpecSkeleton.Node
import SpecSkeleton.Node.Path
import SpecSkeleton.Node.Span
import SpecSkeleton.Number.Binary64
import SpecSkeleton.Number.Limit
import SpecSkeleton.Number.Shortest
import SpecSkeleton.Outline.File
import SpecSkeleton.Outline.Item
import SpecSkeleton.Outline.Log
import SpecSkeleton.Outline.Nesting
import SpecSkeleton.Outline.Parse
import SpecSkeleton.Outline.State
import SpecSkeleton.Outline.Symbol
import SpecSkeleton.Proofs.Node.LastBranch
import SpecSkeleton.Proofs.Node.Lineage
import SpecSkeleton.Record
import SpecSkeleton.Record.Check
import SpecSkeleton.Session.Basic
import SpecSkeleton.Session.Request
import SpecSkeleton.Session.Workspace
import SpecSkeleton.Settings
import SpecSkeleton.Settings.Search
import SpecSkeleton.Text.Blank
import SpecSkeleton.Text.Case
import SpecSkeleton.Text.CharRange
import SpecSkeleton.Text.Digit
import SpecSkeleton.Text.Enclosed
import SpecSkeleton.Text.Line
import SpecSkeleton.Text.Lower
import SpecSkeleton.Text.Numeral
import SpecSkeleton.Text.Printable
import SpecSkeleton.Text.Quoted
import SpecSkeleton.Text.Upper
import SpecSkeleton.Text.Utf8
import SpecSkeleton.Text.Width
import SpecSkeleton.Text.Word
import SpecSkeleton.Text.Wrap
import SpecSkeleton.Toml.Document
import SpecSkeleton.Toml.Number
import SpecSkeleton.Toml.Refusal
import SpecSkeleton.Toml.Text
import SpecSkeleton.Updater.Basic
import SpecSkeleton.Updater.Settled
import SpecSkeleton.Uri.Basic
import SpecSkeleton.Uri.Host
import SpecSkeleton.Uri.Percent
import SpecSkeleton.Value
import SpecSkeleton.Value.Calendar
import SpecSkeleton.Value.Json
import SpecSkeleton.Value.Shown
import SpecSkeleton.Version
import SpecSkeleton.Proofs.Outline.Nested
import SpecSkeleton.Proofs.Outline.Nearest
import SpecSkeleton.Proofs.Outline.Openings
import SpecSkeleton.Proofs.Keyword.Search
import SpecSkeleton.Proofs.Keyword.Row
import SpecSkeleton.Proofs.Outline.Written
import SpecSkeleton.Proofs.Command.Locate
import SpecSkeleton.Proofs.Outline.History
import SpecSkeleton.Proofs.Outline.Visible
import SpecSkeleton.Proofs.Updater.Course
import SpecSkeleton.Proofs.Text.Utf8
import SpecSkeleton.Proofs.Uri.Percent
import SpecSkeleton.Proofs.Uri.File
import SpecSkeleton.Proofs.Session.Workspace
import SpecSkeleton.Proofs.Session.Shown
import SpecSkeleton.Proofs.Outline.LineEnds
import SpecSkeleton.Proofs.Text.Rows
import SpecSkeleton.Proofs.Outline.Reindented
import SpecSkeleton.Proofs.Outline.Appended
import SpecSkeleton.Proofs.Updater.Marker
import SpecSkeleton.Proofs.Session.Turn
import SpecSkeleton.Proofs.Session.Notified
import SpecSkeleton.Proofs.Session.DocumentPath
import SpecSkeleton.Proofs.File.Upward
import SpecSkeleton.Proofs.Settings.Table
import SpecSkeleton.Proofs.Settings.Search
import SpecSkeleton.Proofs.Settings.Faults
import SpecSkeleton.Proofs.Session.Entered
import SpecSkeleton.Proofs.List.FirstFailure
import SpecSkeleton.Proofs.Session.Failed
import SpecSkeleton.Proofs.File.Pattern
import SpecSkeleton.Proofs.File.Contents
import SpecSkeleton.Proofs.File.Found
import SpecSkeleton.Proofs.Discovery
import SpecSkeleton.Proofs.Outline.Naming
import SpecSkeleton.Proofs.Outline.Indented
import SpecSkeleton.Proofs.Node.Position
import SpecSkeleton.Proofs.Updater.Told
import SpecSkeleton.Proofs.Updater.Crew
import SpecSkeleton.Proofs.Text.Trim
import SpecSkeleton.Proofs.Keyword.Name
import SpecSkeleton.Proofs.Keyword.QuoteMark
import SpecSkeleton.Proofs.Outline.Stack
import SpecSkeleton.Proofs.Outline.Symbols
import SpecSkeleton.Proofs.Settings.Verdict
import SpecSkeleton.Proofs.Settings.Rules
import SpecSkeleton.Proofs.Text.Lower
import SpecSkeleton.Proofs.Markup.Escape
import SpecSkeleton.Proofs.Markup.Shown
import SpecSkeleton.Proofs.Text.Shown
import SpecSkeleton.Proofs.Text.Wrap
import SpecSkeleton.Proofs.File.Emptied
import SpecSkeleton.Proofs.Command.Table
import SpecSkeleton.Proofs.Command.Scan
import SpecSkeleton.Proofs.Settings.Excerpt
import SpecSkeleton.Proofs.Value.JsonString
import SpecSkeleton.Proofs.Record.Check
import SpecSkeleton.Proofs.Record.RoundTrip
