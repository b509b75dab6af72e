import LintBench.Fixture.Basic
import LintBench.Issue.Basic

/-!
# Reconciliation

The issues an analyzer reported are compared with the expectations of the fixture
files. First each issue is looked up at its file and line: one that meets an
expectation marks it, any other is unexpected. Then every expectation that is
still unmarked is an issue that was not raised.
-/

namespace LintBench

/-- The failures of one file. -/
structure Failures where
  /-- Issues that were raised and not expected. -/
  unexpected : List Issue := []
  /-- Issues that were expected and not raised. -/
  notRaised : List Issue := []
deriving DecidableEq, Repr, Inhabited

/-- Whether a file has no failures. -/
def Failures.passed (failures : Failures) : Bool :=
  failures.unexpected.isEmpty && failures.notRaised.isEmpty

/-- Whether a path lies under one of the excluded directories, each written with a final slash. -/
def isExcluded (excluded : List String) (path : String) : Bool :=
  excluded.any fun directory => Text.startsWith path directory

/-- Whether a code takes part in the verdict on a file; outside the fixtures every code does. -/
def shouldReport (file : Option FixtureFile) (code : LooseText) : Bool :=
  match file with
  | none => true
  | some file => file.mode.admits code

/-- Limit a file that is named after a reported code to that code, unless a directive has limited
it already. -/
def FixtureFile.promote (codes : List LooseText) (file : FixtureFile) : FixtureFile :=
  match file.mode with
  | .all =>
    if codes.contains (.ofString file.name) then { file with mode := .only [file.name] } else file
  | _ => file

/-- Limit every file that is named after a reported code. -/
def promoteFiles (files : Keyed FixtureFile) (codes : List LooseText) : Keyed FixtureFile :=
  files.map fun (path, file) => (path, file.promote codes)

/-! ## Expectations of one line -/

namespace Expectation

/-- The details expected of a reported code, if it is expected. -/
def detailsOf (expectation : Expectation) (code : LooseText) : Option (List Detail) :=
  code.toString?.bind (Keyed.get? expectation.details)

/-- Whether an expectation expects a reported code, column and title. -/
def expects (expectation : Expectation) (issue : Issue) : Bool :=
  match expectation.detailsOf issue.code with
  | none => false
  | some details =>
    details.isEmpty ||
      details.any fun detail => detail.accepts issue.position.start.column issue.title

/-- Note a reported issue: its code counts as raised, and the first detail that accepts it counts
as met. A code with half a surrogate pair in it is that of no expectation, and no mark is kept for
it: it could only say that the code was raised, which nothing asks. -/
def note (expectation : Expectation) (issue : Issue) : Expectation :=
  match issue.code.toString? with
  | none => expectation
  | some code =>
    let marked := expectation.mark code true
    let details := (Keyed.get? expectation.details code).getD []
    match details.findIdx? fun detail => detail.accepts issue.position.start.column issue.title with
    | some index => marked.markDetail code index
    | none => marked

/-- The details that no issue has met, with their codes. -/
def unmet (expectation : Expectation) : List (String × Detail) :=
  expectation.details.flatMap fun (code, details) =>
    (details.filter fun detail => !detail.hit).map (code, ·)

/-- Count every code with an unmet detail as accounted for. -/
def settle (expectation : Expectation) : Expectation :=
  expectation.unmet.foldl (fun settled (code, _) => settled.mark code true) expectation

/-- What was expected and not raised: each unmet detail, and then each code that is neither raised
nor accounted for by its details. -/
def missing (expectation : Expectation) : List (String × Detail) :=
  expectation.unmet ++
    (expectation.settle.raised.filter fun (_, hit) => !hit).map fun (code, _) =>
      (code, Detail.anything)

end Expectation

/-! ## The two passes -/

/-- The state of a reconciliation. -/
structure Reconciliation where
  /-- The fixture files by resolved path. -/
  files : Keyed FixtureFile
  /-- The failures found so far, by resolved path. -/
  failures : Keyed Failures := []
  /-- Whether nothing has failed so far. -/
  passed : Bool := true
deriving DecidableEq, Repr, Inhabited

namespace Reconciliation

/-- Give a path a place among the failures. -/
def visit (state : Reconciliation) (path : String) : Reconciliation :=
  { state with failures := Keyed.setDefault state.failures path {} }

/-- Record an issue that was not expected. -/
def addUnexpected (state : Reconciliation) (path : String) (issue : Issue) : Reconciliation :=
  { state with
    failures := Keyed.adjust state.failures path fun failures =>
      { failures with unexpected := failures.unexpected ++ [issue] }
    passed := false }

/-- Record issues that were expected and not raised. -/
def addNotRaised (state : Reconciliation) (path : String) (issues : List Issue) : Reconciliation :=
  { state with
    failures := Keyed.adjust state.failures path fun failures =>
      { failures with notRaised := failures.notRaised ++ issues }
    passed := state.passed && issues.isEmpty }

/-- The expectation that a file has for the line of an issue. -/
def expectationAt (file : FixtureFile) (issue : Issue) : Option (Nat × Expectation) :=
  match issue.position.start.line with
  | .ofNat line => (file.expectations.get? line).map (line, ·)
  | .negSucc _ => none

/-- Look one reported issue up. -/
def checkIssue (excluded included : List String) (state : Reconciliation) (issue : Issue) :
    Reconciliation :=
  let path := issue.position.resolved
  if isExcluded excluded path then state
  else
    let state := state.visit path
    match Keyed.get? state.files path with
    | none =>
      if !included.isEmpty && !included.contains path then state
      else state.addUnexpected path issue
    | some file =>
      let report (state : Reconciliation) : Reconciliation :=
        if shouldReport (some file) issue.code then state.addUnexpected path issue else state
      match expectationAt file issue with
      | none => report state
      | some (line, expectation) =>
        let noted := { state with
          files := Keyed.set state.files path
            { file with expectations := file.expectations.set line (expectation.note issue) } }
        if expectation.expects issue then noted else report noted

/-- An issue that was expected and not raised. -/
def notRaised (path : String) (line : Nat) (code : String) (detail : Detail) : Issue :=
  { code := .ofString code
    title := .ofString detail.message
    position :=
      { file := .ofString path
        start := { line := line, column := detail.column }
        resolved := path } }

/-- Everything that was expected of a file and not raised, by ascending line. -/
def missingIssues (path : String) (file : FixtureFile) : List Issue :=
  file.expectations.flatMap fun (line, expectation) =>
    (expectation.missing.filter fun (code, _) => shouldReport (some file) (.ofString code)).map
      fun (code, detail) => notRaised path line code detail

/-- Report what was expected of one file and not raised. -/
def checkFile (excluded : List String) (state : Reconciliation) (entry : String × FixtureFile) :
    Reconciliation :=
  let (path, file) := entry
  if isExcluded excluded path then state
  else
    let reported := (state.visit path).addNotRaised path (missingIssues path file)
    { reported with
      files := Keyed.set reported.files path
        { file with
          expectations := file.expectations.map fun (line, expectation) =>
            (line, expectation.settle) } }

end Reconciliation

/-- Compare reported issues with the expectations of the fixture files. If `included` names files,
issues outside the fixtures count only in those. -/
def reconcile (files : Keyed FixtureFile) (excluded included : List String)
    (issues : List Issue) : Reconciliation :=
  let start : Reconciliation := { files := promoteFiles files (issueCodes issues) }
  let looked := issues.foldl (Reconciliation.checkIssue excluded included) start
  looked.files.foldl (Reconciliation.checkFile excluded) looked

end LintBench
