import LintBench.CommandLine.Program
import LintBench.Proofs.Files.Growth
import LintBench.Proofs.Run.Outcome

/-!
# The stages of a run

A suite's run first finds out what it is to test and then tests it. The checks first
bring about issues and fixtures and then compare them. Each of these parts is a step
of its own here, and the run is its parts one after another.
-/

namespace LintBench.Run

/-- What a suite's run goes by. -/
structure Setup where
  /-- The configuration of the suite. -/
  config : Config
  /-- The fixtures that the run is limited to, by their resolved paths. -/
  included : List String
  /-- The directory for changed files, if one is named. -/
  given : Option Path

/-- Find out what a suite's run is to test. -/
def setUp (configPath : Path) (files : List String) (autofixDir : Option String) : Run Setup := do
  let world ← get
  let config ← ofExcept .config (Config.load world.tree configPath (world.here / configPath))
  if !config.testChecks && !config.testAutofix then throw .nothingToDo
  let codeDir ← look config.codeDir
  let included ← look fun tree => tree.resolveListed codeDir files
  let given ← outputDirectory config autofixDir
  return { config, included, given }

/-- Test what a suite asks for, and tell the verdict. -/
def testAll (tools : Tools) (printer : Printer) (setup : Setup) : Run Bool := do
  let (checksPassed, printer) ←
    if setup.config.testChecks then testChecks tools.interpret setup.config setup.included printer
    else pure (true, printer)
  let (autofixPassed, printer) ←
    if setup.config.testAutofix then
      testAutofix tools setup.config setup.included setup.given printer
    else pure (true, printer)
  let passed := checksPassed && autofixPassed
  let _ ← tell printer [.status passed]
  return passed

/-- The run of a suite is first to find out what to test, and then to test it. -/
theorem suite_eq (tools : Tools) (printer : Printer) (configPath : Path)
    (files : List String) (autofixDir : Option String) :
    suite tools printer configPath files autofixDir =
      setUp configPath files autofixDir >>= testAll tools printer := by
  simp only [suite, setUp, bind_assoc]
  refine bind_congr fun world => bind_congr fun config => ?_
  split
  · rfl
  · simp only [pure_bind, bind_assoc, testAll]

/-- What is to be read as the result of a suite's checks: the file that they were told to write, or
what the processor makes of it. -/
def resultContent (interpret : Interpreter) (config : Config) : Run Text.Bytes := do
  if config.checks.outputFile = "" then throw .noOutputFile
  let file := config.root / Path.ofString config.checks.outputFile
  if config.processor.skipped then look (·.content file)
  else
    execute interpret {
      program := config.processor.interpreter
      arguments := []
      directory := config.root
      environment := Keyed.overlay (← get).environment [(inputFileVariable, file.toString)]
      input := Text.encodeUtf8 config.processor.body
      output := .kept }

/-- Run the checks of a suite; they leave a result to be read, with the directory of the fixtures.
-/
def leave (interpret : Interpreter) (config : Config) : Run (Path × Text.Bytes) := do
  script interpret config config.checks []
  let content ← resultContent interpret config
  let codeDir ← look config.codeDir
  return (codeDir, content)

/-- Read what the checks of a suite left. -/
def readLeft (left : Path × Text.Bytes) : Run (List Issue) := do
  ofExcept .result (readResultBytes (← get).tree left.1 left.2)

/-- Run the checks of a suite, and read what they left and the fixtures. -/
def gather (interpret : Interpreter) (config : Config) (included : List String) :
    Run (List Issue × Keyed FixtureFile) := do
  let left ← leave interpret config
  let issues ← readLeft left
  let files ← ofExcept id (readFixtures (← get).tree config included)
  return (issues, files)

/-- Compare what the checks of a suite left with its fixtures. -/
def compare (config : Config) (included : List String) (printer : Printer) (issues : List Issue)
    (files : Keyed FixtureFile) : Run (Reconciliation × Printer) := do
  let printer ← tell printer (unmatchedMessages (Keyed.keys files) issues)
  let excluded ← look config.excludedPaths
  return (reconcile files excluded included issues, printer)

/-- The checks of a suite first bring about what they compare then. -/
theorem checks_eq (interpret : Interpreter) (config : Config) (included : List String)
    (printer : Printer) :
    checks interpret config included printer =
      gather interpret config included >>= fun (issues, files) =>
        compare config included printer issues files := by
  simp only [checks, gather, leave, readLeft, compare, bind_assoc, pure_bind, processor,
    resultContent]
  refine bind_congr fun _ => ?_
  split
  · rfl
  · split <;> simp only [bind_assoc]

/-! ## Steps that go well -/

/-- A script that does nothing and succeeds leaves the world as it was, but for the name of the file
that its text was in. -/
theorem outcome_script_of_idle {interpret : Interpreter} {config : Config} {world : World}
    {script : Script} {extra : Keyed String} {codeDir codePath : Path} {place : Place} {stored : Tree}
    (idle : ∀ invocation begun, (interpret invocation).outcome begun = (.ok { status := 0 }, begun))
    (coded : config.codeDir world.tree = .ok codeDir)
    (resolved : world.tree.resolveStrict codeDir = .ok codePath)
    (located : world.tree.locate false
      (world.scratch / { names := ["script-" ++ toString world.serial] }) = .ok ⟨place, none⟩)
    (free : ∀ entry ∈ world.tree.nodes, ¬ place <+: entry.1)
    (store : world.tree.store (world.scratch / { names := ["script-" ++ toString world.serial] })
      (Text.encodeUtf8 script.body) = .ok stored) :
    (Run.script interpret config script extra).outcome world =
      (.ok (), { world with serial := world.serial + 1 }) := by
  have executed (invocation : Invocation) (begun : World) :
      (do let _ ← execute interpret invocation).outcome begun = (.ok (), begun) := by
    rw [execute, outcome_bind, outcome_bind_of_ok (idle invocation begun)]
    rfl
  rw [Run.script, outcome_bind_of_ok (outcome_look_of_ok coded),
    outcome_bind_of_ok (outcome_look_of_ok resolved), outcome_bind_of_ok (outcome_freshPath _ _),
    outcome_bind_of_ok (outcome_change_of_ok store), outcome_bind_of_ok (outcome_get _),
    outcome_andFinally, executed]
  simp only [discardQuietly, outcome_modify, Tree.discard_store located free store]
  rfl

/-- What a plain printer can form is written; the first output is held back. -/
theorem outcome_tell_of_plain {printer next : Printer} {messages : List Message}
    {printed : Printed} (world : World) (plain : printer.style = .plain)
    (formed : printer.printAll messages = (next, printed)) (whole : printed.fault = none) :
    (tell printer messages).outcome world =
      (.ok next, { world with
        errors := world.errors ++ Text.encodeUtf8 printed.errors
        held := world.held ++ Text.encodeUtf8 printed.output }) := by
  simp only [tell, formed, plain, whole]
  rfl

end LintBench.Run

namespace LintBench.CommandLine

/-- The form of the messages that a request asks for. -/
def styleFor (console : Console) (request : RunRequest) : Run PrinterStyle := do
  if request.pretty then
    let base ← Run.fromHere (Path.ofString request.directory)
    return .pretty (← Run.look (·.resolveLenient base)) console
  else return .plain

/-- The place of the configuration that a request asks for. -/
def configPathFor (request : RunRequest) : Path :=
  Path.ofString request.directory / Path.ofString configName

/-- The run of a suite for a request goes by the form that it asks for. -/
theorem runSuite_eq (tools : Tools) (request : RunRequest) :
    runSuite tools request = do
      let style ← styleFor tools.console request
      let setup ← Run.setUp (configPathFor request) request.files (some request.autofixDir)
      let passed ← Run.testAll tools { style } setup
      return if passed then 0 else 1 := by
  simp only [runSuite, styleFor, configPathFor, Run.suite_eq, bind_assoc]
  split <;> simp

/-- What is carried out with a status ends the program with it. -/
theorem outcome_program_of_ok {tools : Tools} (machine : Machine)
    {arguments : List String} {request : Request} {world last : World} {status : Nat}
    (asked : Request.read tools.readOptions arguments = .ok request)
    (ran : (carryOut tools machine request).outcome world = (.ok status, last)) :
    (program tools machine arguments).outcome world = (.ok { status }, last) := by
  simp only [program, asked]
  rw [Run.outcome_tryCatch, Run.outcome_bind_of_ok ran]
  rfl

/-- A fault ends the program with the status of a failure if it is told, and as it is if it is not.
-/
theorem outcome_program_of_error {tools : Tools} (machine : Machine)
    {arguments : List String} {request : Request} {world last : World} {fault : RunFault}
    (asked : Request.read tools.readOptions arguments = .ok request)
    (ran : (carryOut tools machine request).outcome world = (.error fault, last)) :
    (program tools machine arguments).outcome world =
      if fault.isTold then
        (.ok { status := 1, told := some fault },
          { last with errors := last.errors ++ Text.encodeUtf8 (tools.errorLine fault.summary) })
      else (.error fault, last) := by
  simp only [program, asked]
  rw [Run.outcome_tryCatch, Run.outcome_bind_of_error ran]
  simp only
  split <;> rfl

/-- Do what a request asks for until there is a result to be read, if checks are tested at all. -/
def leftResult (tools : Tools) (request : RunRequest) :
    Run (Option (Path × Text.Bytes)) := do
  let style ← styleFor tools.console request
  let setup ← Run.setUp (configPathFor request) request.files (some request.autofixDir)
  if setup.config.testChecks then
    let _ ← Run.tell { style } [.header "Testing checks"]
    let left ← Run.leave tools.interpret setup.config
    return some left
  else return none

/-- A result that is not read ends the run of a suite with the fault of reading it. -/
theorem outcome_runSuite_of_unread {tools : Tools} {request : RunRequest}
    {world later : World} {left : Path × Text.Bytes} {fault : ReadFault}
    (ran : (leftResult tools request).outcome world = (.ok (some left), later))
    (unread : readResultBytes later.tree left.1 left.2 = .error fault) :
    (runSuite tools request).outcome world = (.error (.result fault), later) := by
  obtain ⟨style, _, formed, ran⟩ := Run.outcome_bind_eq_ok.1 ran
  obtain ⟨setup, ready, found, ran⟩ := Run.outcome_bind_eq_ok.1 ran
  split at ran
  case isFalse => cases ran
  rename_i tested
  obtain ⟨printer, shown, told, ran⟩ := Run.outcome_bind_eq_ok.1 ran
  obtain ⟨left, _, given, ran⟩ := Run.outcome_bind_eq_ok.1 ran
  cases ran
  have read : (Run.readLeft left).outcome later = (.error (.result fault), later) := by
    rw [Run.readLeft, Run.outcome_bind_of_ok (Run.outcome_get _), Run.outcome_ofExcept, unread]
    rfl
  have gathered : (Run.gather tools.interpret setup.config setup.included).outcome shown =
      (.error (.result fault), later) := by
    rw [Run.gather, Run.outcome_bind_of_ok given, Run.outcome_bind_of_error read]
  have checked : (Run.testChecks tools.interpret setup.config setup.included { style }).outcome ready =
      (.error (.result fault), later) := by
    rw [Run.testChecks, Run.outcome_bind_of_ok told, Run.checks_eq, bind_assoc,
      Run.outcome_bind_of_error gathered]
  rw [runSuite_eq, Run.outcome_bind_of_ok formed, Run.outcome_bind_of_ok found]
  refine Run.outcome_bind_of_error ?_ _
  simp only [Run.testAll, tested, if_true]
  exact Run.outcome_bind_of_error checked _

end LintBench.CommandLine
