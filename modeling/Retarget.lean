import Retarget.Text.Alphanumeric
import Retarget.Text.Blank
import Retarget.Text.Count
import Retarget.Text.Hexadecimal
import Retarget.Text.Plain
import Retarget.Text.Printable
import Retarget.Text.Quoted
import Retarget.Text.Ranges
import Retarget.Text.Similarity
import Retarget.Text.Utf8
import Retarget.Decimal.Layout
import Retarget.Decimal.Numeral
import Retarget.Decimal.Shortest
import Retarget.Segments
import Retarget.Pattern
import Retarget.Markup
import Retarget.Path.Basic
import Retarget.Path.Clean
import Retarget.Path.Extension
import Retarget.Path.Order
import Retarget.Ignore
import Retarget.Script
import Retarget.FileTree.Access
import Retarget.FileTree.Basic
import Retarget.FileTree.Build
import Retarget.FileTree.Change
import Retarget.FileTree.Error
import Retarget.FileTree.Resolve
import Retarget.Host
import Retarget.Arguments.Fault
import Retarget.Arguments.Help
import Retarget.Arguments.Parameter
import Retarget.Arguments.Reader
import Retarget.Settings.Basic
import Retarget.Settings.Fault
import Retarget.Settings.File
import Retarget.Settings.Scan
import Retarget.Failure
import Retarget.Discovery
import Retarget.Conversion.Basic
import Retarget.Conversion.Report
import Retarget.Conversion.Run
import Retarget.Conversion.Schedule
import Retarget.Expression.Basic
import Retarget.Expression.Bracket
import Retarget.Expression.Escape
import Retarget.Expression.Opening
import Retarget.Expression.Reader
import Retarget.Log.Directive
import Retarget.Log.Event
import Retarget.Log.Filter
import Retarget.Notice
import Retarget.Program
import Retarget.Main
import Retarget.Proofs.Path.Front
import Retarget.Proofs.Path.Ending
import Retarget.Proofs.FileTree.Approach
import Retarget.Proofs.FileTree.Named
import Retarget.Proofs.Discovery.Selected
import Retarget.Proofs.Conversion.Site
import Retarget.Proofs.Conversion.Delivery
import Retarget.Proofs.Conversion.Apart
import Retarget.Proofs.Conversion.Course
import Retarget.Proofs.Conversion.Interleaving
import Retarget.Proofs.Conversion.Confluence
import Retarget.Proofs.Conversion.Preservation
import Retarget.Proofs.Arguments.KeepOriginals
import Retarget.Proofs.Program.Keeping
import Retarget.Proofs.FileTree.Arrival
import Retarget.Proofs.Ignore.Directory
import Retarget.Proofs.Conversion.Extent
import Retarget.Proofs.Conversion.Shelter
import Retarget.Proofs.Discovery.Renewal
import Retarget.Proofs.Conversion.Sequence
import Retarget.Proofs.Conversion.Rerun
import Retarget.Proofs.Conversion.Clearance
import Retarget.Proofs.Program.Clearing
import Retarget.Proofs.FileTree.Effect
import Retarget.Proofs.FileTree.Plain
import Retarget.Proofs.Conversion.Account
import Retarget.Proofs.Conversion.Verdict
import Retarget.Proofs.Conversion.Concealment
import Retarget.Proofs.Program.Ending
import Retarget.Proofs.Program.Status
import Retarget.Proofs.Markup.Grammar
import Retarget.Proofs.Conversion.Clash
import Retarget.Proofs.Discovery.Exactness
import Retarget.Proofs.Path.Cleaning
import Retarget.Proofs.FileTree.Cleaned
import Retarget.Proofs.Settings.Root
import Retarget.Proofs.Ignore.Segmentwise
import Retarget.Proofs.Discovery.Relocation
import Retarget.Proofs.Path.Trail
import Retarget.Proofs.Text.Encoding
import Retarget.Proofs.Arguments.Writing
import Retarget.Proofs.Arguments.Tokens
import Retarget.Proofs.Markup.Layout
import Retarget.Proofs.Path.Normal
import Retarget.Proofs.Ignore.Merging
import Retarget.Proofs.Settings.Loading
import Retarget.Proofs.Settings.Format
import Retarget.Proofs.Settings.Literals
import Retarget.Proofs.Settings.Values
import Retarget.Proofs.Settings.Spelling
import Retarget.Proofs.FileTree.Obstacle
import Retarget.Proofs.Path.Wanted
import Retarget.Proofs.Program.Refusal
