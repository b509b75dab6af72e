import LintBench.Expectation.Grammar
import LintBench.Files.Search
import LintBench.Issue.Result
import LintBench.Report.Printer
import LintBench.Suite.Config

/-!
# The world of a run

A run changes a file tree, makes files of its own in a scratch directory, and
writes to two outputs. It ends with a result or with a fault; what it changed
before the fault stays changed.
-/

namespace LintBench

open Text (Bytes)

/-- Why the lines of an ignore file are not read. -/
inductive IgnoreFault where
  /-- A line is no rule. -/
  | malformed
  /-- A line asks for a range of characters whose ends are the wrong way round. -/
  | reversedRange
deriving DecidableEq, Repr

/-- Why a run ends without a result. -/
inductive RunFault where
  /-- A file is not read or changed, or a path is not resolved. -/
  | file (fault : FileFault)
  /-- The fixture files are not found. -/
  | search (fault : SearchFault)
  /-- The ignore file is not read. -/
  | ignoreRules (fault : IgnoreFault)
  /-- The comments of a fixture file are not read. -/
  | grammar (fault : GrammarError)
  /-- The configuration is not read. -/
  | config (fault : ConfigFault)
  /-- The analyzer's result is not read. -/
  | result (fault : ReadFault)
  /-- A message is not written. -/
  | print (fault : PrintFault)
  /-- The configuration tests nothing. -/
  | nothingToDo
  /-- The checks are not said to leave a result anywhere. -/
  | noOutputFile
  /-- No result is named that is to be converted. -/
  | noInputFile
  /-- What stands where a script's interpreter should be cannot be run. -/
  | notRunnable
  /-- A script ended with a status other than zero. -/
  | scriptFailed (status : Int)
deriving Repr

namespace RunFault

/-- What is told about a fault, where the library has words of its own. -/
def message? : RunFault → Option String
  | .config fault => fault.message?
  | .result fault => fault.message?
  | .nothingToDo => some "nothing to do"
  | .noOutputFile => some "checks.output_file is not set"
  | .noInputFile => some "INPUT_FILE not set"
  | .file _ | .search _ | .ignoreRules _ | .grammar _ | .print _ | .notRunnable
  | .scriptFailed _ => none

/-- Whether a fault is told to the user. The others come of links, patterns and numbers that lead
nowhere, and of links and documents that stand too deep in each other. -/
def isTold : RunFault → Bool
  | .file .endlessLink | .search (.file .endlessLink) | .config (.file .endlessLink)
  | .result (.file .endlessLink) => false
  | .file .linksTooDeep | .search (.file .linksTooDeep) | .config (.file .linksTooDeep)
  | .result (.file .linksTooDeep) => false
  | .search .absolutePattern | .search .noName | .search .noDirectory => false
  | .ignoreRules .reversedRange => false
  | .result (.result .infiniteNumber) => false
  | .result (.document (.json .tooDeep)) | .config (.document .tooDeep) => false
  | .result (.conversion .noItems) | .result (.conversion (.number .wrongType))
  | .result (.conversion (.number .infinite)) => false
  | _ => true

/-- What is told about a fault: the library's words, or three dots in place of the system's. -/
def summary (fault : RunFault) : String := fault.message?.getD "..."

/-- Whether a fault comes from the file tree. -/
def ofTree : RunFault → Bool
  | .file fault | .search (.file fault) => fault.ofTree
  | _ => false

end RunFault

/-- What a run changes, and what it is given. -/
structure World where
  /-- The file tree. -/
  tree : Tree := {}
  /-- The directory where relative paths start. -/
  here : Path := { anchor := .root }
  /-- The directory where a run makes files of its own. -/
  scratch : Path := { anchor := .root }
  /-- How many names have been made up in the scratch directory. -/
  serial : Nat := 0
  /-- The variables of the environment. -/
  environment : Keyed String := []
  /-- What was written to the first output. -/
  output : Bytes := []
  /-- What is held back from the first output until the run ends. -/
  held : Bytes := []
  /-- What was written to the second output. -/
  errors : Bytes := []
deriving DecidableEq, Repr, Inhabited

/-- A step of a run. -/
abbrev Run := ExceptT RunFault (StateM World)

/-- The first output as it is when the run has ended. -/
def World.finalOutput (world : World) : Bytes := world.output ++ world.held

namespace Run

/-- A fault, or the result of a step that cannot change the world. -/
def ofExcept {ε α : Type} (wrap : ε → RunFault) : Except ε α → Run α
  | .ok value => pure value
  | .error fault => throw (wrap fault)

/-- Look something up in the file tree. -/
def look {α : Type} (question : Tree → Except FileFault α) : Run α := do
  ofExcept .file (question (← get).tree)

/-- Change the file tree. -/
def change (act : Tree → Except FileFault Tree) : Run Unit := do
  let world ← get
  let tree ← ofExcept .file (act world.tree)
  set { world with tree }

/-- The path from the root that a path stands for. -/
def fromHere (path : Path) : Run Path := return (← get).here / path

/-- A path in the scratch directory that was not given out before. -/
def freshPath (start : String) : Run Path := do
  let world ← get
  set { world with serial := world.serial + 1 }
  return world.scratch / { names := [start ++ toString world.serial] }

/-- Write to the first output. -/
def print (text : Bytes) : Run Unit :=
  modify fun world => { world with output := world.output ++ text }

/-- Write to the first output when the run ends. -/
def printAtEnd (text : Bytes) : Run Unit :=
  modify fun world => { world with held := world.held ++ text }

/-- Write to the second output. -/
def printError (text : Bytes) : Run Unit :=
  modify fun world => { world with errors := world.errors ++ text }

/-- Carry out an action whatever became of the step before it. A fault of the action stands in
place of that step's. -/
def andFinally {α : Type} (step : Run α) (action : Run Unit) : Run α := do
  let outcome ← (ExceptT.lift step.run : Run (Except RunFault α))
  action
  match outcome with
  | .ok value => pure value
  | .error fault => throw fault

end Run

end LintBench
