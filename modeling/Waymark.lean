import Waymark.Anchor.Attributes
import Waymark.Anchor.Basic
import Waymark.Anchor.Forest
import Waymark.Anchor.Link
import Waymark.Anchor.Listing
import Waymark.Cli.Arguments
import Waymark.Cli.Run
import Waymark.Config.Basic
import Waymark.Config.Load
import Waymark.Config.Reader
import Waymark.Data.Json
import Waymark.Data.SortedMap
import Waymark.Disk.Basic
import Waymark.Disk.IgnoreRule
import Waymark.Disk.Walk
import Waymark.Engine.Basic
import Waymark.Engine.Scan
import Waymark.Engine.Watch
import Waymark.Glob.Basic
import Waymark.Glob.Expression
import Waymark.Glob.Filter
import Waymark.Glob.Match
import Waymark.Glob.Shape
import Waymark.Index
import Waymark.Main
import Waymark.Mark.Basic
import Waymark.Mark.Grammar
import Waymark.Mark.Separator
import Waymark.Parser
import Waymark.Path
import Waymark.Path.Order
import Waymark.Proofs.Anchor.AttributeLists
import Waymark.Proofs.Anchor.Attributes
import Waymark.Proofs.Anchor.DepthFirst
import Waymark.Proofs.Anchor.Forest
import Waymark.Proofs.Anchor.Link
import Waymark.Proofs.Anchor.Listing
import Waymark.Proofs.Anchor.Outline
import Waymark.Proofs.Anchor.Parents
import Waymark.Proofs.Anchor.Sorting
import Waymark.Proofs.Anchor.Walk
import Waymark.Proofs.Data.SortedMap
import Waymark.Proofs.Data.StableSort
import Waymark.Proofs.Disk.Root
import Waymark.Proofs.Engine.Batches
import Waymark.Proofs.Engine.Channel
import Waymark.Proofs.Engine.Failure
import Waymark.Proofs.Engine.Operation
import Waymark.Proofs.Engine.Refresh
import Waymark.Proofs.Engine.SharedScan
import Waymark.Proofs.Glob.Matching
import Waymark.Proofs.Glob.Reading
import Waymark.Proofs.Glob.Watch
import Waymark.Proofs.Mark.Choice
import Waymark.Proofs.Mark.Completion
import Waymark.Proofs.Mark.EndMark
import Waymark.Proofs.Mark.ExactCase
import Waymark.Proofs.Mark.Grammar
import Waymark.Proofs.Mark.LineByLine
import Waymark.Proofs.Mark.LongestSeparator
import Waymark.Proofs.Mark.Offsets
import Waymark.Proofs.Mark.Opening
import Waymark.Proofs.Mark.Reordering
import Waymark.Proofs.Mark.Resolution
import Waymark.Proofs.Mark.SeparatorOrder
import Waymark.Proofs.Mark.Spelling
import Waymark.Proofs.Mark.Written
import Waymark.Proofs.Parser.CommentHighlight
import Waymark.Proofs.Parser.Folds
import Waymark.Proofs.Parser.Highlights
import Waymark.Proofs.Parser.Lookup
import Waymark.Proofs.Parser.Nesting
import Waymark.Proofs.Parser.Origin
import Waymark.Proofs.Parser.Regions
import Waymark.Proofs.Parser.Shape
import Waymark.Proofs.Parser.Sorting
import Waymark.Proofs.Path.Components
import Waymark.Proofs.Report.Listing
import Waymark.Proofs.Tag.Color
import Waymark.Proofs.Tag.Merge
import Waymark.Proofs.Tag.Operation
import Waymark.Proofs.Tag.Registry
import Waymark.Proofs.Text.CaseFold
import Waymark.Proofs.Text.CaseTables
import Waymark.Proofs.Text.Class
import Waymark.Proofs.Text.LineBreaks
import Waymark.Proofs.Text.LineNumber
import Waymark.Proofs.Text.Lines
import Waymark.Proofs.Text.Number
import Waymark.Proofs.Text.Trim
import Waymark.Proofs.Text.WordCase
import Waymark.Proofs.Workspace.Edits
import Waymark.Proofs.Workspace.Epic
import Waymark.Proofs.Workspace.EpicCompletion
import Waymark.Proofs.Workspace.Scan
import Waymark.Proofs.Workspace.TextScan
import Waymark.Report.Basic
import Waymark.Report.PathFormat
import Waymark.Tag.Basic
import Waymark.Tag.Color
import Waymark.Tag.Completion
import Waymark.Tag.Override
import Waymark.Tag.Registry
import Waymark.Text.Case
import Waymark.Text.CaseShift
import Waymark.Text.Class
import Waymark.Text.DigitRanges
import Waymark.Text.FoldShifts
import Waymark.Text.HiddenRanges
import Waymark.Text.Lines
import Waymark.Text.Number
import Waymark.Text.Quoted
import Waymark.Text.Similarity
import Waymark.Text.Style
import Waymark.Text.Trim
import Waymark.Text.UpperShifts
import Waymark.Text.WordRanges
import Waymark.Workspace.Basic
import Waymark.Workspace.Epic
import Waymark.Workspace.Scan
import Waymark.Workspace.Source
import Waymark.Yaml.Cursor
import Waymark.Yaml.Node
import Waymark.Yaml.NodeTag
import Waymark.Yaml.Scalar
import Waymark.Yaml.Token
