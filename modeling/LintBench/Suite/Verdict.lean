import LintBench.Autofix.Golden
import LintBench.Tools

/-!
# The verdict on a suite

A run tests what the suite's configuration asks for: that the analyzer reports
what the fixtures expect, and that its changes to the fixtures give their golden
files. A suite passes if all of that holds.
-/

namespace LintBench

namespace Run

/-- Tell messages. What a plain printer writes to the first output comes after all that scripts
write there. -/
def tell (printer : Printer) (messages : List Message) : Run Printer := do
  let (next, printed) := printer.printAll messages
  printError (Text.encodeUtf8 printed.errors)
  match printer.style with
  | .plain => printAtEnd (Text.encodeUtf8 printed.output)
  | .pretty _ _ | .silent => print (Text.encodeUtf8 printed.output)
  match printed.fault with
  | some fault => throw (.print fault)
  | none => return next

/-- Run the checks of a suite and compare what they report with what the fixtures expect. -/
def checks (interpret : Interpreter) (config : Config) (included : List String)
    (printer : Printer) : Run (Reconciliation × Printer) := do
  script interpret config config.checks []
  let issues ← processor interpret config
  let files ← ofExcept id (readFixtures (← get).tree config included)
  let printer ← tell printer (unmatchedMessages (Keyed.keys files) issues)
  let excluded ← look config.excludedPaths
  return (reconcile files excluded included issues, printer)

/-- What came of changing the fixtures. -/
structure AutofixResult where
  /-- The differences between changed files and their golden files. -/
  diffs : Keyed (List String) := []
  /-- The fixtures that were the same as their golden files before. -/
  identical : List String := []
deriving DecidableEq, Repr, Inhabited

/-- Whether every change gave the golden file, and none was idle. -/
def AutofixResult.passed (result : AutofixResult) : Bool :=
  result.diffs.isEmpty && result.identical.isEmpty

/-- Let the fixtures of a suite be changed, in a given directory or in place, and compare them with
their golden files. Fixtures that were changed in place are put back, whatever happens. -/
def autofix (tools : Tools) (config : Config) (included : List String)
    (given : Option Path) : Run AutofixResult := do
  let snapshot ← Snapshot.take tools.readRules config included given
  andFinally
    (do
      let codeDir ← look config.codeDir
      let excluded ← look config.excludedPaths
      let identical ← look fun tree => snapshot.identicalFixtures tree codeDir excluded
      let outputDir := given.getD config.root
      change (·.makeDirectories outputDir)
      let outputPath ← look (·.resolveStrict outputDir)
      script tools.interpret config config.autofix [(outputDirVariable, outputPath.toString)]
      let codeDir ← look config.codeDir
      let excluded ← look config.excludedPaths
      let diffs ← look fun tree => snapshot.goldenDiffs tree codeDir excluded
      return { diffs, identical })
    snapshot.restore

/-- Test checks: the failures are told, and the verdict is given. -/
def testChecks (interpret : Interpreter) (config : Config) (included : List String)
    (printer : Printer) : Run (Bool × Printer) := do
  let printer ← tell printer [.header "Testing checks"]
  let (outcome, printer) ← checks interpret config included printer
  if outcome.passed then return (true, printer)
  else return (false, ← tell printer (failureMessages outcome.failures))

/-- Test changes: the differences are told, and the verdict is given. -/
def testAutofix (tools : Tools) (config : Config) (included : List String)
    (given : Option Path) (printer : Printer) : Run (Bool × Printer) := do
  let printer ← tell printer [.header "Testing Autofix"]
  let result ← autofix tools config included given
  if result.passed then return (true, printer)
  else return (false, ← tell printer
    (diffMessages result.diffs ++ identicalMessages result.identical))

/-- The directory that changed files are to go to, if one is named. -/
def outputDirectory (config : Config) (named : Option String) : Run (Option Path) :=
  match named with
  | none => return none
  | some text =>
    if Text.isAllBlank text then return none
    else some <$> look (·.resolveLenient (config.root / Path.ofString (Text.trimmed text)))

/-- Run the tests of a suite. `files` limit it to some fixtures, and `autofixDir` names a directory
for changed files. The verdict is told and given. -/
def suite (tools : Tools) (printer : Printer) (configPath : Path) (files : List String)
    (autofixDir : Option String) : Run Bool := do
  let world ← get
  let config ← ofExcept .config (Config.load world.tree configPath (world.here / configPath))
  if !config.testChecks && !config.testAutofix then throw .nothingToDo
  let codeDir ← look config.codeDir
  let included ← look fun tree => tree.resolveListed codeDir files
  let given ← outputDirectory config autofixDir
  let (checksPassed, printer) ←
    if config.testChecks then testChecks tools.interpret config included printer
    else pure (true, printer)
  let (autofixPassed, printer) ←
    if config.testAutofix then testAutofix tools config included given printer
    else pure (true, printer)
  let passed := checksPassed && autofixPassed
  let _ ← tell printer [.status passed]
  return passed

end Run

end LintBench
