import CuratedHistory.CommandLine.Arguments
import CuratedHistory.CommandLine.Options
import CuratedHistory.CommandLine.Run
import CuratedHistory.CommandLine.Settings
import CuratedHistory.Files.FileSystem
import CuratedHistory.Files.Path
import CuratedHistory.History.Commit
import CuratedHistory.History.Encoding
import CuratedHistory.History.Instant
import CuratedHistory.History.InstantReader
import CuratedHistory.Host.Machine
import CuratedHistory.Json.Basic
import CuratedHistory.Json.Printer
import CuratedHistory.Main
import CuratedHistory.Plan.Action
import CuratedHistory.Plan.Block
import CuratedHistory.Plan.Directive
import CuratedHistory.Plan.Encoding
import CuratedHistory.Plan.Error
import CuratedHistory.Plan.Parser
import CuratedHistory.Plan.Range
import CuratedHistory.Plan.Record
import CuratedHistory.Plan.Template
import CuratedHistory.Programs.Converter
import CuratedHistory.Programs.Ending
import CuratedHistory.Proofs.CommandLine.DryRun
import CuratedHistory.Proofs.CommandLine.Ending
import CuratedHistory.Proofs.CommandLine.Frame
import CuratedHistory.Proofs.Files.Extension
import CuratedHistory.Proofs.Files.FileSystem
import CuratedHistory.Proofs.Files.Path
import CuratedHistory.Proofs.Files.Touching
import CuratedHistory.Proofs.History.Abbreviation
import CuratedHistory.Proofs.History.Calendar
import CuratedHistory.Proofs.History.Encoding
import CuratedHistory.Proofs.History.Instant
import CuratedHistory.Proofs.History.Message
import CuratedHistory.Proofs.History.Timestamp
import CuratedHistory.Proofs.Json.Printing
import CuratedHistory.Proofs.Json.Reading
import CuratedHistory.Proofs.Plan.Acceptance
import CuratedHistory.Proofs.Plan.Annotation
import CuratedHistory.Proofs.Plan.Comments
import CuratedHistory.Proofs.Plan.Cosmetics
import CuratedHistory.Proofs.Plan.Counting
import CuratedHistory.Proofs.Plan.DefaultPlan
import CuratedHistory.Proofs.Plan.Directive
import CuratedHistory.Proofs.Plan.Encoding
import CuratedHistory.Proofs.Plan.FirstRefusal
import CuratedHistory.Proofs.Plan.Grammar
import CuratedHistory.Proofs.Plan.Grouping
import CuratedHistory.Proofs.Plan.Index
import CuratedHistory.Proofs.Plan.Label
import CuratedHistory.Proofs.Plan.Parser
import CuratedHistory.Proofs.Plan.ParserState
import CuratedHistory.Proofs.Plan.Parsing
import CuratedHistory.Proofs.Plan.Range
import CuratedHistory.Proofs.Plan.Reading
import CuratedHistory.Proofs.Plan.Recovery
import CuratedHistory.Proofs.Plan.Refusal
import CuratedHistory.Proofs.Plan.Renumbering
import CuratedHistory.Proofs.Plan.Resolution
import CuratedHistory.Proofs.Plan.Respelling
import CuratedHistory.Proofs.Plan.Run
import CuratedHistory.Proofs.Plan.Simulation
import CuratedHistory.Proofs.Plan.Spelling
import CuratedHistory.Proofs.Report.Asking
import CuratedHistory.Proofs.Report.Contents
import CuratedHistory.Proofs.Report.Delivery
import CuratedHistory.Proofs.Report.DiffLine
import CuratedHistory.Proofs.Report.Document
import CuratedHistory.Proofs.Report.Escaping
import CuratedHistory.Proofs.Report.Failures
import CuratedHistory.Proofs.Report.Fallback
import CuratedHistory.Proofs.Report.Footprint
import CuratedHistory.Proofs.Report.Fragment
import CuratedHistory.Proofs.Report.Headers
import CuratedHistory.Proofs.Report.Isolation
import CuratedHistory.Proofs.Report.Landmarks
import CuratedHistory.Proofs.Report.Links
import CuratedHistory.Proofs.Report.Marks
import CuratedHistory.Proofs.Report.Message
import CuratedHistory.Proofs.Report.Outline
import CuratedHistory.Proofs.Report.PatchLines
import CuratedHistory.Proofs.Report.Reader
import CuratedHistory.Proofs.Report.Rendering
import CuratedHistory.Proofs.Report.Sections
import CuratedHistory.Proofs.Report.Target
import CuratedHistory.Proofs.Report.Written
import CuratedHistory.Proofs.Repository.Diff
import CuratedHistory.Proofs.Repository.FirstParents
import CuratedHistory.Proofs.Repository.Hashes
import CuratedHistory.Proofs.Repository.Range
import CuratedHistory.Proofs.Repository.Reachability
import CuratedHistory.Proofs.Session.DefaultPlan
import CuratedHistory.Proofs.Session.Editing
import CuratedHistory.Proofs.Session.Loading
import CuratedHistory.Proofs.Session.Naming
import CuratedHistory.Proofs.Session.Positions
import CuratedHistory.Proofs.Session.Telescoping
import CuratedHistory.Proofs.Text.Case
import CuratedHistory.Proofs.Text.Decimal
import CuratedHistory.Proofs.Text.Lines
import CuratedHistory.Proofs.Text.Splitting
import CuratedHistory.Proofs.Text.Trimming
import CuratedHistory.Proofs.Text.Utf8
import CuratedHistory.Proofs.Traversal
import CuratedHistory.Report.DiffLine
import CuratedHistory.Report.Document
import CuratedHistory.Report.Fragment
import CuratedHistory.Report.Html
import CuratedHistory.Report.Markup
import CuratedHistory.Report.Outline
import CuratedHistory.Report.Stylesheet
import CuratedHistory.Report.Target
import CuratedHistory.Report.Written
import CuratedHistory.Repository.Ancestry
import CuratedHistory.Repository.Basic
import CuratedHistory.Repository.Diff
import CuratedHistory.Repository.Error
import CuratedHistory.Repository.LineChange
import CuratedHistory.Repository.LineEdit
import CuratedHistory.Repository.LineSearch
import CuratedHistory.Repository.Listing
import CuratedHistory.Repository.MessageSearch
import CuratedHistory.Repository.Opening
import CuratedHistory.Repository.Range
import CuratedHistory.Repository.Revision
import CuratedHistory.Session.Editing
import CuratedHistory.Session.Source
import CuratedHistory.Text.Basic
import CuratedHistory.Text.Decimal
import CuratedHistory.Text.Regex
import CuratedHistory.Text.RegexReader
import CuratedHistory.Text.Similarity
import CuratedHistory.Text.Utf8
