import LintBench.Document.Json.Writer
import LintBench.Issue.Document
import LintBench.Reconciliation

/-!
# Messages

What a run has to tell, before a printer gives it a form: the failures of a
reconciliation go by ascending path and keep their order within a file.
-/

namespace LintBench

/-- How an issue fails a test. -/
inductive FailureKind where
  /-- It was raised and not expected. -/
  | unexpected
  /-- It was expected and not raised. -/
  | notRaised
deriving DecidableEq, Repr, Inhabited

/-- The words for a kind of failure. -/
def FailureKind.text : FailureKind → String
  | .unexpected => "Unexpected Issue"
  | .notRaised => "Issue not raised"

/-- One thing that is told. -/
inductive Message where
  /-- What is tested next. -/
  | header (text : String)
  /-- An issue that fails a test, and where. -/
  | issue (file : String) (line column : Int) (kind : FailureKind) (issue : Issue)
  /-- The unified diff of a fixture and its golden file. -/
  | diff (file : String) (lines : List String)
  /-- A fixture that is the same as its golden file. -/
  | identical (file : String)
  /-- Whether all tests passed. -/
  | status (passed : Bool)
  /-- Something that may be a mistake. -/
  | warning (text : String)
deriving Repr, Inhabited

/-- Entries by ascending key. -/
def sortedEntries {α : Type} (entries : Keyed α) : Keyed α :=
  entries.mergeSort fun one other => decide (one.1 ≤ other.1)

/-- The message on an issue that fails a test. -/
def failureMessage (file : String) (kind : FailureKind) (issue : Issue) : Message :=
  .issue file issue.position.start.line issue.position.start.column kind issue

/-- The messages on the failures of one file. -/
def fileMessages (file : String) (failures : Failures) : List Message :=
  failures.unexpected.map (failureMessage file .unexpected)
    ++ failures.notRaised.map (failureMessage file .notRaised)

/-- The messages on the failures of all files. -/
def failureMessages (failures : Keyed Failures) : List Message :=
  (sortedEntries failures).flatMap fun (file, failures) => fileMessages file failures

/-- The messages on files that differ from their golden files. -/
def diffMessages (diffs : Keyed (List String)) : List Message :=
  (sortedEntries diffs).map fun (file, lines) => .diff file lines

/-- The messages on files that are the same as their golden files. -/
def identicalMessages (files : List String) : List Message :=
  (files.mergeSort fun one other => decide (one ≤ other)).map .identical

/-- The warning about a reported file that is no fixture. -/
def unmatchedWarning (file : LooseText) : String :=
  String.ofList (Json.writeString file)
    ++ " is present in the analysis result but is not checked by SCATR."

/-- The reported issues whose files are no fixtures, one for each resolved path, in order; `seen`
are the paths that were met before. -/
def unmatchedIssues (files : List String) (seen : List String) : List Issue → List Issue
  | [] => []
  | issue :: rest =>
    let path := issue.position.resolved
    if files.contains path || seen.contains path then unmatchedIssues files seen rest
    else issue :: unmatchedIssues files (path :: seen) rest

/-- The warnings about reported files that are no fixtures. -/
def unmatchedMessages (files : List String) (issues : List Issue) : List Message :=
  (unmatchedIssues files [] issues).map fun issue =>
    .warning (unmatchedWarning issue.position.file)

end LintBench
