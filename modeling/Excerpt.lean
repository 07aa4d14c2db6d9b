import Excerpt.Text.Ascii
import Excerpt.Text.Line
import Excerpt.Text.Utf8
import Excerpt.Text.CharTable
import Excerpt.Text.Mark
import Excerpt.Text.Script
import Excerpt.Text.CombiningClass
import Excerpt.Text.Decomposition
import Excerpt.Text.NormalForm
import Excerpt.Decimal
import Excerpt.Json.Basic
import Excerpt.Json.Reader
import Excerpt.Json.Printer
import Excerpt.Toml.Basic
import Excerpt.Toml.Scalar
import Excerpt.Toml.Reader
import Excerpt.Url.Percent
import Excerpt.Url.Basic
import Excerpt.Url.Punycode
import Excerpt.Url.Domain.Mapping
import Excerpt.Url.Domain.Name
import Excerpt.Url.Host
import Excerpt.Url.Parser
import Excerpt.LocalPath
import Excerpt.Language
import Excerpt.Document
import Excerpt.Source
import Excerpt.FileTree
import Excerpt.Cues.Basic
import Excerpt.Cues.Json
import Excerpt.Anchor.Basic
import Excerpt.Anchor.Json
import Excerpt.Anchor.Argument
import Excerpt.Anchor.Resolve
import Excerpt.Block
import Excerpt.Highlight
import Excerpt.Aggregation
import Excerpt.Preferences
import Excerpt.Report.Format
import Excerpt.Report.Bounds
import Excerpt.Report.Definitions
import Excerpt.CommandLine.Manual
import Excerpt.CommandLine.Options
import Excerpt.CommandLine.Request
import Excerpt.CommandLine.Run
import Excerpt.Main
import Excerpt.Proofs.Text.Ink
import Excerpt.Proofs.Text.Lines
import Excerpt.Proofs.Text.Columns
import Excerpt.Proofs.Text.Pieces
import Excerpt.Proofs.Json.Fields
import Excerpt.Proofs.Json.ReadBack
import Excerpt.Proofs.Json.Passing
import Excerpt.Proofs.Json.Values
import Excerpt.Proofs.Cues.Fields
import Excerpt.Proofs.Cues.Stream
import Excerpt.Proofs.LocalPath
import Excerpt.Proofs.Block.Layout
import Excerpt.Proofs.Block.Extent
import Excerpt.Proofs.Block.Attached
import Excerpt.Proofs.Block.Containment
import Excerpt.Proofs.Block.RangeEnd
import Excerpt.Proofs.Block.Dedent
import Excerpt.Proofs.Block.Cut
import Excerpt.Proofs.Block.Nesting
import Excerpt.Proofs.Block.Locality
import Excerpt.Proofs.Block.Siblings
import Excerpt.Proofs.Block.Widening
import Excerpt.Proofs.Block.LineEnds
import Excerpt.Proofs.Block.Reindent
import Excerpt.Proofs.Anchor.Arguments
import Excerpt.Proofs.Anchor.TypedLines
import Excerpt.Proofs.Anchor.Responses
import Excerpt.Proofs.Anchor.Readings
import Excerpt.Proofs.Shelf
import Excerpt.Proofs.Aggregation.Passage
import Excerpt.Proofs.Aggregation.Dependence
import Excerpt.Proofs.Aggregation.Combined
import Excerpt.Proofs.Highlight
import Excerpt.Proofs.CommandLine.Host
import Excerpt.Proofs.CommandLine.PlainOutput
import Excerpt.Proofs.Report.Agreement
