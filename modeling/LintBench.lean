import LintBench.Autofix.Golden
import LintBench.Autofix.Snapshot
import LintBench.CommandLine.Program
import LintBench.CommandLine.Request
import LintBench.Decimal.Double
import LintBench.Decimal.Shortest
import LintBench.Document.Json.Reader
import LintBench.Document.Json.Writer
import LintBench.Document.Toml.Reader
import LintBench.Document.Toml.Scalar
import LintBench.Document.Toml.Value
import LintBench.Document.Value
import LintBench.Expectation.Basic
import LintBench.Expectation.Grammar
import LintBench.Expectation.Printer
import LintBench.Files.Access
import LintBench.Files.NamePattern
import LintBench.Files.Path
import LintBench.Files.Resolution
import LintBench.Files.Search
import LintBench.Files.Tree
import LintBench.Fixture.Basic
import LintBench.Fixture.Extraction
import LintBench.Host.Arguments
import LintBench.Host.IgnoreRules
import LintBench.Host.MessagePack
import LintBench.Host.Octets
import LintBench.Host.Programs.Files
import LintBench.Host.Programs.LinePattern
import LintBench.Host.Programs.Lines
import LintBench.Host.Programs.StreamEditor
import LintBench.Host.Shell.Arithmetic
import LintBench.Host.Shell.Evaluation
import LintBench.Host.Shell.Expansion
import LintBench.Host.Shell.Interpreter
import LintBench.Host.Shell.Launching
import LintBench.Host.Shell.OwnPrograms
import LintBench.Host.Shell.Reader
import LintBench.Host.Shell.State
import LintBench.Host.Shell.Syntax
import LintBench.Host.Terminal
import LintBench.Host.Tools
import LintBench.Issue.Basic
import LintBench.Issue.Conversion
import LintBench.Issue.Document
import LintBench.Issue.Result
import LintBench.Keyed
import LintBench.LineDiff.Blocks
import LintBench.LineDiff.Unified
import LintBench.Main
import LintBench.Reconciliation
import LintBench.Report.Message
import LintBench.Report.Printer
import LintBench.Report.Styled
import LintBench.Run.Script
import LintBench.Run.World
import LintBench.Suite.Config
import LintBench.Suite.Fixtures
import LintBench.Suite.Verdict
import LintBench.Text.Blank
import LintBench.Text.DecimalDigit
import LintBench.Text.Encoding
import LintBench.Text.Ends
import LintBench.Text.Lines
import LintBench.Text.Loose
import LintBench.Text.Number
import LintBench.Text.Printable
import LintBench.Text.Quoted
import LintBench.Text.Ranges
import LintBench.Text.Split
import LintBench.Text.Utf8
import LintBench.Text.Word
import LintBench.Tools
import LintBench.Proofs.Autofix.Copying
import LintBench.Proofs.Autofix.Exits
import LintBench.Proofs.Autofix.Failing
import LintBench.Proofs.Autofix.Given
import LintBench.Proofs.Autofix.InPlace
import LintBench.Proofs.Autofix.Losing
import LintBench.Proofs.Autofix.Mirroring
import LintBench.Proofs.Autofix.Restoring
import LintBench.Proofs.Autofix.Starting
import LintBench.Proofs.Autofix.Verdict
import LintBench.Proofs.Document.Encoding
import LintBench.Proofs.Document.RoundTrip
import LintBench.Proofs.Document.Strings
import LintBench.Proofs.Expectation.Codes
import LintBench.Proofs.Expectation.IssueCode
import LintBench.Proofs.Expectation.LongColumns
import LintBench.Proofs.Expectation.Marks
import LintBench.Proofs.Expectation.Merging
import LintBench.Proofs.Expectation.Monoid
import LintBench.Proofs.Expectation.Parting
import LintBench.Proofs.Expectation.Reading
import LintBench.Proofs.Expectation.Rendering
import LintBench.Proofs.Expectation.Splitting
import LintBench.Proofs.Files.Computing
import LintBench.Proofs.Files.Confining
import LintBench.Proofs.Files.Defying
import LintBench.Proofs.Files.Faults
import LintBench.Proofs.Files.Finding
import LintBench.Proofs.Files.Growth
import LintBench.Proofs.Files.PathText
import LintBench.Proofs.Files.Resolving
import LintBench.Proofs.Files.Straight
import LintBench.Proofs.Files.Unlinked
import LintBench.Proofs.Files.Walking
import LintBench.Proofs.Fixture.Codes
import LintBench.Proofs.Fixture.CommentLines
import LintBench.Proofs.Fixture.Invariants
import LintBench.Proofs.Fixture.LineIndex
import LintBench.Proofs.Fixture.Lines
import LintBench.Proofs.Fixture.Noting
import LintBench.Proofs.Fixture.Placement
import LintBench.Proofs.Fixture.Reading
import LintBench.Proofs.Fixture.Separation
import LintBench.Proofs.Fixture.Stacking
import LintBench.Proofs.Issue.Conversion
import LintBench.Proofs.Issue.Converting
import LintBench.Proofs.Issue.Normalizing
import LintBench.Proofs.Issue.Reading
import LintBench.Proofs.Issue.RoundTrip
import LintBench.Proofs.Keyed
import LintBench.Proofs.LineDiff.Blocks
import LintBench.Proofs.LineDiff.Rows
import LintBench.Proofs.LineDiff.Unified
import LintBench.Proofs.Reconciliation.Aging
import LintBench.Proofs.Reconciliation.ExactReports
import LintBench.Proofs.Reconciliation.Lifecycle
import LintBench.Proofs.Reconciliation.Order
import LintBench.Proofs.Reconciliation.Passes
import LintBench.Proofs.Reconciliation.Reference
import LintBench.Proofs.Reconciliation.Relevance
import LintBench.Proofs.Reconciliation.Rounds
import LintBench.Proofs.Reconciliation.Tally
import LintBench.Proofs.Report.DiffRows
import LintBench.Proofs.Report.Failures
import LintBench.Proofs.Report.Unmatched
import LintBench.Proofs.Run.Converting
import LintBench.Proofs.Run.LeftResult
import LintBench.Proofs.Run.Outcome
import LintBench.Proofs.Run.Recorded
import LintBench.Proofs.Run.Stages
import LintBench.Proofs.Run.Verdict
import LintBench.Proofs.Runs
import LintBench.Proofs.Suite.Exclusion
import LintBench.Proofs.Suite.Housing
import LintBench.Proofs.Suite.Restriction
