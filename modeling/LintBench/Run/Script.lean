import LintBench.Run.World

/-!
# Running scripts

A script is run by an interpreter, which may do anything to the file tree and
ends with a status. What is said here holds for any interpreter. The text of a
script goes to a file of the run's own, which is gone afterwards; a processor is
given its text as input instead.
-/

namespace LintBench

open Text (Bytes)

/-- Where the first output of a program goes; its second output goes to that of the run. -/
inductive OutputEnd where
  /-- To the first output of the run. -/
  | first
  /-- To the second output of the run. -/
  | second
  /-- Back to who started the program. -/
  | kept
deriving DecidableEq, Repr, Inhabited

/-- The start of a program. -/
structure Invocation where
  /-- The name of the program. -/
  program : String
  /-- What it is given. -/
  arguments : List String
  /-- The directory that it is started in. -/
  directory : Path
  /-- The variables that it finds. -/
  environment : Keyed String
  /-- Its input. -/
  input : Bytes
  /-- Where its first output goes. -/
  output : OutputEnd
deriving DecidableEq, Repr, Inhabited

/-- The end of a program. -/
structure Ending where
  /-- Its status; zero stands for success, and a number below zero for the signal that ended it. -/
  status : Int
  /-- What it wrote to a first output that was kept. -/
  kept : Bytes := []
deriving DecidableEq, Repr, Inhabited

/-- What runs programs. A program that is not there is a fault. -/
abbrev Interpreter := Invocation → Run Ending

namespace Run

/-- Run a program that has to succeed, and give what it wrote to a kept output. -/
def execute (interpret : Interpreter) (invocation : Invocation) : Run Bytes := do
  let ending ← interpret invocation
  if ending.status = 0 then return ending.kept else throw (.scriptFailed ending.status)

/-- Remove a file if it can be removed. -/
def discardQuietly (path : Path) : Run Unit :=
  modify fun world => { world with tree := (world.tree.discard path).toOption.getD world.tree }

/-- The name of the variable with the directory of the fixtures. -/
def codePathVariable : String := "CODE_PATH"

/-- The name of the variable with the directory for changed files. -/
def outputDirVariable : String := "OUTPUT_DIR"

/-- The name of the variable with the file that a processor reads. -/
def inputFileVariable : String := "INPUT_FILE"

/-- Run a script of a suite in the suite's directory, with some variables set. What it writes to
its first output goes to the second output of the run unless it has the terminal to itself. -/
def script (interpret : Interpreter) (config : Config) (script : Script) (extra : Keyed String) :
    Run Unit := do
  let codeDir ← look config.codeDir
  let codePath ← look (·.resolveStrict codeDir)
  let file ← freshPath "script-"
  change (·.store file (Text.encodeUtf8 script.body))
  let environment := Keyed.overlay (← get).environment
    (Keyed.set extra codePathVariable codePath.toString)
  andFinally
    (do
      let _ ← execute interpret {
        program := script.interpreter
        arguments := script.arguments ++ [file.toString]
        directory := config.root
        environment
        input := []
        output := if script.interactive then .first else .second })
    (discardQuietly file)

/-- The issues that the checks of a suite left: the file they were told to write is a result
itself, or the processor makes one of it. -/
def processor (interpret : Interpreter) (config : Config) : Run (List Issue) := do
  if config.checks.outputFile = "" then throw .noOutputFile
  let file := config.root / Path.ofString config.checks.outputFile
  let content ←
    if config.processor.skipped then look (·.content file)
    else
      execute interpret {
        program := config.processor.interpreter
        arguments := []
        directory := config.root
        environment := Keyed.overlay (← get).environment [(inputFileVariable, file.toString)]
        input := Text.encodeUtf8 config.processor.body
        output := .kept }
  let codeDir ← look config.codeDir
  ofExcept .result (readResultBytes (← get).tree codeDir content)

end Run

end LintBench
