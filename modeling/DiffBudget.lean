import DiffBudget.Assembly.Account
import DiffBudget.Assembly.Basic
import DiffBudget.Assembly.Compression
import DiffBudget.Assembly.Options
import DiffBudget.Assembly.Preparation
import DiffBudget.Assembly.Report
import DiffBudget.Assembly.Shared
import DiffBudget.Change.Additions
import DiffBudget.Change.Basic
import DiffBudget.Change.Collected
import DiffBudget.Change.MultiFile
import DiffBudget.Change.Status
import DiffBudget.CommandLine.Help
import DiffBudget.CommandLine.Outcome
import DiffBudget.CommandLine.Reading
import DiffBudget.CommandLine.Run
import DiffBudget.CommandLine.Setting
import DiffBudget.CommandLine.Task
import DiffBudget.CommandLine.UsageFault
import DiffBudget.Config.Basic
import DiffBudget.Config.Discovery
import DiffBudget.Config.Field
import DiffBudget.Config.Reader
import DiffBudget.Digest.Sha1
import DiffBudget.EditScript.Basic
import DiffBudget.EditScript.Group
import DiffBudget.EditScript.Shortest
import DiffBudget.EditScript.Slide
import DiffBudget.EditScript.Unified
import DiffBudget.Failure
import DiffBudget.FileFilter
import DiffBudget.Glob.Basic
import DiffBudget.Glob.Parser
import DiffBudget.Hunk.Basic
import DiffBudget.Hunk.Header
import DiffBudget.Hunk.Widen
import DiffBudget.LineDiff.Candidates
import DiffBudget.LineDiff.Gap
import DiffBudget.LineDiff.Hunk
import DiffBudget.LineDiff.Indentation
import DiffBudget.LineDiff.Matching
import DiffBudget.LineDiff.Settle
import DiffBudget.Location
import DiffBudget.Patch
import DiffBudget.Patch.Rebuild
import DiffBudget.PatternLimits
import DiffBudget.Regex.Basic
import DiffBudget.Regex.Parser
import DiffBudget.Regex.Preference
import DiffBudget.Rendering
import DiffBudget.Repository.Basic
import DiffBudget.Repository.Checkout
import DiffBudget.Repository.Command
import DiffBudget.Repository.CommitReport
import DiffBudget.Repository.Complaint
import DiffBudget.Repository.Date
import DiffBudget.Repository.DiffStyle
import DiffBudget.Repository.Difference
import DiffBudget.Repository.Project
import DiffBudget.Repository.Reply
import DiffBudget.Repository.Revision
import DiffBudget.Repository.WorkStatus
import DiffBudget.Snapshot.Basic
import DiffBudget.Snapshot.Delta
import DiffBudget.Snapshot.DiffStat
import DiffBudget.Snapshot.DiffText
import DiffBudget.Snapshot.NameStatus
import DiffBudget.Snapshot.ObjectId
import DiffBudget.Snapshot.Quoted
import DiffBudget.Snapshot.Rename
import DiffBudget.Snapshot.Similarity
import DiffBudget.Snapshot.Tree
import DiffBudget.Sum
import DiffBudget.Text.Blank
import DiffBudget.Text.JsonText
import DiffBudget.Text.Lines
import DiffBudget.Text.Number
import DiffBudget.Text.Shown
import DiffBudget.Text.Table
import DiffBudget.Text.Utf8
import DiffBudget.Tokens.Callers
import DiffBudget.Tokens.Clip
import DiffBudget.Tokens.Encoding
import DiffBudget.Tokens.Estimate
import DiffBudget.Tokens.Limit
import DiffBudget.Tokens.LimitList
import DiffBudget.Tokens.Pattern
import DiffBudget.Tokens.Piece
import DiffBudget.Tokens.Registry
import DiffBudget.Unicode.CaseClass
import DiffBudget.Unicode.Category
import DiffBudget.Unicode.Property
import DiffBudget.Unicode.Query
import DiffBudget.Unicode.Runs
import DiffBudget.Unicode.Script
import DiffBudget.Workspace.Basic
import DiffBudget.Yaml.Block
import DiffBudget.Yaml.Character
import DiffBudget.Yaml.Fault
import DiffBudget.Yaml.Node
import DiffBudget.Yaml.Printer
import DiffBudget.Yaml.Resolution
import DiffBudget.Yaml.Scalar
import DiffBudget.Yaml.Scan
import DiffBudget.Yaml.Style
import DiffBudget.Yaml.Token
import DiffBudget.Main
import DiffBudget.Proofs.Assembly.Accounting
import DiffBudget.Proofs.Assembly.Appearance
import DiffBudget.Proofs.Assembly.Bound
import DiffBudget.Proofs.Assembly.Contents
import DiffBudget.Proofs.Assembly.Fitting
import DiffBudget.Proofs.Assembly.HardStop
import DiffBudget.Proofs.Assembly.Independence
import DiffBudget.Proofs.Assembly.Offset
import DiffBudget.Proofs.Assembly.Readiness
import DiffBudget.Proofs.Assembly.Saturation
import DiffBudget.Proofs.Assembly.Separators
import DiffBudget.Proofs.Assembly.Shared
import DiffBudget.Proofs.Assembly.Visits
import DiffBudget.Proofs.Change.Collection
import DiffBudget.Proofs.Change.Concatenation
import DiffBudget.Proofs.Change.MultiFile
import DiffBudget.Proofs.Change.NameStatus
import DiffBudget.Proofs.Change.Printed
import DiffBudget.Proofs.Change.Sections
import DiffBudget.Proofs.Change.Told
import DiffBudget.Proofs.Config.Patterns
import DiffBudget.Proofs.Config.RoundTrip
import DiffBudget.Proofs.EditScript.Ends
import DiffBudget.Proofs.EditScript.Group
import DiffBudget.Proofs.EditScript.Slide
import DiffBudget.Proofs.EditScript.Tidy
import DiffBudget.Proofs.EditScript.Walk
import DiffBudget.Proofs.Hunk.Grammar
import DiffBudget.Proofs.Hunk.Header
import DiffBudget.Proofs.Hunk.Insertion
import DiffBudget.Proofs.Hunk.Numbering
import DiffBudget.Proofs.Hunk.Replay
import DiffBudget.Proofs.Hunk.Rewidening
import DiffBudget.Proofs.Hunk.Widening
import DiffBudget.Proofs.Location
import DiffBudget.Proofs.Location.FirstHolder
import DiffBudget.Proofs.Location.FirstNumber
import DiffBudget.Proofs.Location.Preamble
import DiffBudget.Proofs.Patch.LineByLine
import DiffBudget.Proofs.Patch.Printing
import DiffBudget.Proofs.Patch.Reading
import DiffBudget.Proofs.Patch.Rebuilding
import DiffBudget.Proofs.Patch.RebuiltDiff
import DiffBudget.Proofs.Patch.RebuiltNumbers
import DiffBudget.Proofs.Patch.RoundTrip
import DiffBudget.Proofs.Patch.Source
import DiffBudget.Proofs.Regex.Anchoring
import DiffBudget.Proofs.Regex.ClassClosing
import DiffBudget.Proofs.Regex.Closing
import DiffBudget.Proofs.Regex.ItemClosing
import DiffBudget.Proofs.Regex.Picks
import DiffBudget.Proofs.Regex.Preference
import DiffBudget.Proofs.Rendering
import DiffBudget.Proofs.Text.Joined
import DiffBudget.Proofs.Text.Lines
import DiffBudget.Proofs.Text.Table
import DiffBudget.Proofs.Text.Tail
import DiffBudget.Proofs.Tokens.Clipping
import DiffBudget.Proofs.Tokens.Pattern
import DiffBudget.Proofs.Tokens.Pieces
import DiffBudget.Proofs.Tokens.Sharing
import DiffBudget.Proofs.Yaml.Composing
import DiffBudget.Proofs.Yaml.Document
import DiffBudget.Proofs.Yaml.Keys
import DiffBudget.Proofs.Yaml.Layout
import DiffBudget.Proofs.Yaml.Literal
import DiffBudget.Proofs.Yaml.Numbers
import DiffBudget.Proofs.Yaml.Plain
import DiffBudget.Proofs.Yaml.Quoted
import DiffBudget.Proofs.Yaml.Scalars
import DiffBudget.Proofs.Yaml.Scanning
import DiffBudget.Proofs.Yaml.Written
