import Listing.Aggregate
import Listing.Charset.Basic
import Listing.Charset.Name
import Listing.Charset.SingleByte
import Listing.Charset.Utf16
import Listing.Charset.Utf8
import Listing.CommandLine.Arguments
import Listing.CommandLine.Run
import Listing.CommandLine.Word
import Listing.Comment.Delimited
import Listing.Comment.Literal
import Listing.Comment.Removal
import Listing.Comment.Style
import Listing.FileTree.Basic
import Listing.FileTree.Folder
import Listing.FileTree.Removal
import Listing.FileTree.Resolve
import Listing.Generation
import Listing.Main
import Listing.Notice
import Listing.Number.Arithmetic
import Listing.Number.Basic
import Listing.Number.Decimal
import Listing.Number.Rounding
import Listing.Number.Scalar
import Listing.Page.Distribution
import Listing.Page.Document
import Listing.Page.Layout
import Listing.Page.Lookup
import Listing.Page.Mode
import Listing.Page.Range
import Listing.Page.Selection
import Listing.Page.Size
import Listing.Path
import Listing.Proofs.Aggregate.Isolation
import Listing.Proofs.Aggregate.Joining
import Listing.Proofs.Aggregate.LineTotal
import Listing.Proofs.Aggregate.Summary
import Listing.Proofs.Aggregate.Textual
import Listing.Proofs.CommandLine.Ending
import Listing.Proofs.CommandLine.Header
import Listing.Proofs.Comment.Line
import Listing.Proofs.Comment.Reader
import Listing.Proofs.Comment.Repetition
import Listing.Proofs.Comment.Scan
import Listing.Proofs.Comment.Token
import Listing.Proofs.Except
import Listing.Proofs.FileTree.Following
import Listing.Proofs.FileTree.Leading
import Listing.Proofs.Generation.BlankLines
import Listing.Proofs.Generation.Complaint
import Listing.Proofs.Generation.Document
import Listing.Proofs.Generation.LineCount
import Listing.Proofs.Generation.Outcome
import Listing.Proofs.Generation.Verdict
import Listing.Proofs.Number.Nearest
import Listing.Proofs.Number.Rounding
import Listing.Proofs.Page.Agreement
import Listing.Proofs.Page.Breaks
import Listing.Proofs.Page.Chunks
import Listing.Proofs.Page.Compaction
import Listing.Proofs.Page.Count
import Listing.Proofs.Page.Distribution
import Listing.Proofs.Page.Division
import Listing.Proofs.Page.Grammar
import Listing.Proofs.Page.Layout
import Listing.Proofs.Page.Locality
import Listing.Proofs.Page.Partition
import Listing.Proofs.Page.Range
import Listing.Proofs.Page.Resolution
import Listing.Proofs.Page.Selection
import Listing.Proofs.Page.Slice
import Listing.Proofs.Page.Token
import Listing.Proofs.Path
import Listing.Proofs.Request.Environment
import Listing.Proofs.Request.Record
import Listing.Proofs.Request.Settings
import Listing.Proofs.Sheet.Body
import Listing.Proofs.Sheet.Delivery
import Listing.Proofs.Sheet.Drawing
import Listing.Proofs.Sheet.Selection
import Listing.Proofs.Sheet.Tabs
import Listing.Proofs.Source.Calls
import Listing.Proofs.Source.Failures
import Listing.Proofs.Source.Files
import Listing.Proofs.Source.Once
import Listing.Proofs.Source.Search
import Listing.Proofs.Source.Suffix
import Listing.Proofs.Source.Walk
import Listing.Proofs.Source.Way
import Listing.Proofs.Text.Compact
import Listing.Proofs.Text.Content
import Listing.Proofs.Text.Lines
import Listing.Proofs.Text.NormalForm
import Listing.Request.Basic
import Listing.Request.Environment
import Listing.Sheet.Drawing
import Listing.Sheet.Font
import Listing.Sheet.Geometry
import Listing.Sheet.Paper
import Listing.Sheet.Press
import Listing.Sheet.Renderer
import Listing.Sheet.Setting
import Listing.Sheet.Step
import Listing.Source.Basic
import Listing.Source.Collection
import Listing.Source.Language
import Listing.Source.Reading
import Listing.Text.Basic
import Listing.Text.Compact
import Listing.Text.Digit
import Listing.Text.Fold
import Listing.Text.Integer
import Listing.Text.Printable
import Listing.Text.Quoted
import Listing.Value.Arithmetic
import Listing.Value.Basic
import Listing.Value.Json
