import AmberTools.Arguments.Reading
import AmberTools.CommandLine.Run
import AmberTools.Compiler.Command
import AmberTools.Compiler.Scanner
import AmberTools.Decimal.Fixed
import AmberTools.Decimal.Numeral
import AmberTools.Decimal.Shortest
import AmberTools.Diagnostic.Report
import AmberTools.Highlight.Formatter
import AmberTools.Reindent
import AmberTools.Settings.Load
import AmberTools.Settings.OfValues
import AmberTools.Text.Digit
import AmberTools.Text.Margin
import AmberTools.Text.Quoted
import AmberTools.Text.Utf8
import AmberTools.Token.Prepared
import AmberTools.Benchmark.Run
import AmberTools.Main
import AmberTools.Proofs.Compiler.Blocks
import AmberTools.Proofs.Compiler.Forms
import AmberTools.Proofs.Text.Colours
import AmberTools.Proofs.Compiler.Printed
import AmberTools.Proofs.Compiler.Calls
import AmberTools.Proofs.Compiler.Settlements
import AmberTools.Proofs.Compiler.Policies
import AmberTools.Proofs.Compiler.Concatenated
import AmberTools.Proofs.Text.Feeds
import AmberTools.Proofs.Compiler.Streamed
import AmberTools.Proofs.Indent.Roles
import AmberTools.Proofs.Reindent.Layout
import AmberTools.Proofs.Reindent.Nesting
import AmberTools.Proofs.Text.Settled
import AmberTools.Proofs.Reindent.Structure
import AmberTools.Proofs.Reindent.SingleLine
import AmberTools.Proofs.Token.Steps
import AmberTools.Proofs.Token.Lines
import AmberTools.Proofs.Token.Literals
import AmberTools.Proofs.Token.Shifted
import AmberTools.Proofs.Token.Alike
import AmberTools.Proofs.Reindent.Tokens
import AmberTools.Proofs.Token.Points
import AmberTools.Proofs.Token.Stack
import AmberTools.Proofs.Token.First
import AmberTools.Proofs.Token.Candidates
import AmberTools.Proofs.Token.Longest
import AmberTools.Proofs.Token.WholeWords
import AmberTools.Proofs.Token.Strays
import AmberTools.Proofs.Token.Restart
import AmberTools.Proofs.Indent.Tokens
import AmberTools.Proofs.Compiler.Uncoloured
import AmberTools.Proofs.Highlight.Terminal
import AmberTools.Proofs.Highlight.Markup
import AmberTools.Proofs.Highlight.Html
import AmberTools.Proofs.Highlight.Fidelity
import AmberTools.Proofs.Text.Utf8
import AmberTools.Proofs.Text.Trim
import AmberTools.Proofs.Compiler.Classified
import AmberTools.Proofs.Compiler.Checked
import AmberTools.Proofs.Compiler.WellFormed
import AmberTools.Proofs.Compiler.Timing
import AmberTools.Proofs.Reindent.Checked
import AmberTools.Proofs.Settings.Drafts
import AmberTools.Proofs.Settings.Held
import AmberTools.Proofs.Files.Written
import AmberTools.Proofs.CommandLine.Indent
import AmberTools.Proofs.Text.Unified
import AmberTools.Proofs.Reindent.Unified
import AmberTools.Proofs.Settings.Overrides
import AmberTools.Proofs.CommandLine.Terminators
import AmberTools.Proofs.CommandLine.Options
import AmberTools.Proofs.CommandLine.Reports
import AmberTools.Proofs.Files.Unread
import AmberTools.Proofs.Yaml.TokenFaults
import AmberTools.Proofs.Yaml.Safe
import AmberTools.Proofs.Yaml.NodeFaults
import AmberTools.Proofs.Yaml.DocumentFaults
import AmberTools.Proofs.Settings.Faults
import AmberTools.Proofs.CommandLine.Failures
import AmberTools.Proofs.Highlight.Formatters
import AmberTools.Proofs.CommandLine.Exits
import AmberTools.Proofs.CommandLine.Configured
import AmberTools.Proofs.Text.Interrupted
import AmberTools.Proofs.Reindent.Visible
import AmberTools.Proofs.Reindent.Levels
import AmberTools.Proofs.CommandLine.Rewritten
import AmberTools.Proofs.Compiler.Grammar
import AmberTools.Proofs.Compiler.Reported
import AmberTools.Proofs.Settings.Rebuilt
import AmberTools.Proofs.Settings.Sections
import AmberTools.Proofs.Reindent.Expanded
import AmberTools.Proofs.Text.Canonical
import AmberTools.Proofs.Text.Positions
import AmberTools.Proofs.Settings.Unordered
