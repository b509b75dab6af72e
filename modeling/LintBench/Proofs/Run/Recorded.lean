import LintBench.Proofs.Run.Stages

/-!
# Recorded runs

A run writes what it tells, and only the form of the messages is seen of it afterwards.
Here the same run also keeps a record of the messages themselves. Without its record it
is the run as it was.
-/

namespace LintBench

/-- A step of a run that keeps a record of what it tells. -/
abbrev Recorded := StateT (List Message) Run

namespace Recorded

/-- Tell messages, and record them. -/
def tell (printer : Printer) (messages : List Message) : Recorded Printer := do
  modify (· ++ messages)
  Run.tell printer messages

/-- Compare what the checks of a suite left with its fixtures, on record. -/
def compare (config : Config) (included : List String) (printer : Printer) (issues : List Issue)
    (files : Keyed FixtureFile) : Recorded (Reconciliation × Printer) := do
  let printer ← tell printer (unmatchedMessages (Keyed.keys files) issues)
  let excluded ← Run.look config.excludedPaths
  return (reconcile files excluded included issues, printer)

/-- Test checks, on record. -/
def testChecks (interpret : Interpreter) (config : Config) (included : List String)
    (printer : Printer) : Recorded (Bool × Printer) := do
  let printer ← tell printer [.header "Testing checks"]
  let (issues, files) ← Run.gather interpret config included
  let (outcome, printer) ← compare config included printer issues files
  if outcome.passed then return (true, printer)
  else return (false, ← tell printer (failureMessages outcome.failures))

/-- Test changes, on record. -/
def testAutofix (tools : Tools) (config : Config) (included : List String)
    (given : Option Path) (printer : Printer) : Recorded (Bool × Printer) := do
  let printer ← tell printer [.header "Testing Autofix"]
  let result ← Run.autofix tools config included given
  if result.passed then return (true, printer)
  else return (false, ← tell printer
    (diffMessages result.diffs ++ identicalMessages result.identical))

/-- Test what a suite asks for, on record. -/
def testAll (tools : Tools) (printer : Printer) (setup : Run.Setup) : Recorded Bool := do
  let (checksPassed, printer) ←
    if setup.config.testChecks then testChecks tools.interpret setup.config setup.included printer
    else pure (true, printer)
  let (autofixPassed, printer) ←
    if setup.config.testAutofix then
      testAutofix tools setup.config setup.included setup.given printer
    else pure (true, printer)
  let passed := checksPassed && autofixPassed
  let _ ← tell printer [.status passed]
  return passed

/-- Run the tests of a suite, on record. -/
def suite (tools : Tools) (printer : Printer) (configPath : Path) (files : List String)
    (autofixDir : Option String) : Recorded Bool := do
  let setup ← Run.setUp configPath files autofixDir
  testAll tools printer setup

/-- Run the suite that a request asks for, on record. -/
def runSuite (tools : Tools) (request : CommandLine.RunRequest) : Recorded Nat := do
  let style ← CommandLine.styleFor tools.console request
  let passed ← suite tools { style } (CommandLine.configPathFor request) request.files
    (some request.autofixDir)
  return if passed then 0 else 1

/-! ## Without the record -/

variable {α β : Type}

/-- Whether a recorded step is another step as soon as its record is forgotten. -/
def Records (recorded : Recorded α) (step : Run α) : Prop :=
  ∀ told, Prod.fst <$> recorded.run told = step

/-- A value is recorded as itself. -/
theorem Records.pure (value : α) : Records (Pure.pure value) (Pure.pure value) := by
  intro told
  simp

/-- A step that tells nothing is its own recorded step. -/
theorem Records.lift (step : Run α) : Records (liftM step) step := by
  intro told
  simp

/-- Two recorded steps, one after the other, record the steps. -/
theorem Records.bind {recorded : Recorded α} {step : Run α} {later : α → Recorded β}
    {next : α → Run β} (first : Records recorded step)
    (second : ∀ value, Records (later value) (next value)) :
    Records (recorded >>= later) (step >>= next) := by
  intro told
  calc Prod.fst <$> (recorded >>= later).run told
      = recorded.run told >>= fun ended => Prod.fst <$> (later ended.1).run ended.2 := by
        rw [StateT.run_bind, map_bind]
    _ = recorded.run told >>= fun ended => next ended.1 := by simp only [second _ _]
    _ = (Prod.fst <$> recorded.run told) >>= next := by rw [bind_map_left]
    _ = step >>= next := by rw [first told]

end Recorded

end LintBench
