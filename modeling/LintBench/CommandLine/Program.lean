import LintBench.Suite.Verdict

/-!
# The program

What the program does with its arguments, and the status it ends with: zero if
all went well, one if a test failed or a fault was told, two if its arguments
were not read.
-/

namespace LintBench.CommandLine

/-- The version of the program. -/
def versionNumber : String := "0.3.0"

/-- The machine that the program runs on. -/
structure Machine where
  /-- The name of its operating system. -/
  system : String
  /-- The name of its kind of processor. -/
  architecture : String
deriving DecidableEq, Repr

/-- What is told about the version. -/
def versionText (machine : Machine) : String :=
  "SCATR analyzer testing framework\n  Version: " ++ versionNumber
    ++ "\n\nEnvironment:\n  OS:   " ++ machine.system
    ++ "\n  ARCH: " ++ machine.architecture ++ "\n"

/-- What is told about the use of the program. -/
def helpText : String :=
  "Commands:\n"
    ++ "  run                    Run the tests in a provided directory.\n"
    ++ "  process-marvin-result  Convert a Marvin result (INPUT_FILE) into a scatr result.\n"
    ++ "  version                Print the scatr version and the environment.\n"

/-- Run a suite; the status tells the verdict. -/
def runSuite (tools : Tools) (request : RunRequest) : Run Nat := do
  let directory := Path.ofString request.directory
  let style ←
    if request.pretty then do
      let base ← Run.fromHere directory
      pure (PrinterStyle.pretty (← Run.look (·.resolveLenient base)) tools.console)
    else pure .plain
  let passed ← Run.suite tools { style } (directory / Path.ofString configName) request.files
    (some request.autofixDir)
  return if passed then 0 else 1

/-- Convert the result in the file that the environment names. -/
def convertResult (unpack : Unpacker) : Run Nat := do
  let text := (Keyed.get? (← get).environment Run.inputFileVariable).getD ""
  if text = "" then throw .noInputFile
  let path := Path.ofString text
  let place ← Run.fromHere path
  let content ← Run.look (·.content place)
  let issues ← Run.ofExcept .result (Marvin.ofContent unpack path content)
  Run.printAtEnd (Text.encodeUtf8 (Json.write (resultOfIssues issues) ++ "\n"))
  return 0

/-- Do what the program is asked to. -/
def carryOut (tools : Tools) (machine : Machine) : Request → Run Nat
  | .run request => runSuite tools request
  | .convert => convertResult tools.unpack
  | .version => do
    Run.printAtEnd (Text.encodeUtf8 (versionText machine))
    return 0
  | .help => do
    Run.printAtEnd (Text.encodeUtf8 helpText)
    return 0

/-- How the program ends. -/
structure Outcome where
  /-- The status: zero stands for success. -/
  status : Nat
  /-- The fault that was told, if there was one. -/
  told : Option RunFault := none
deriving Repr

/-- Do what arguments ask for. A fault that is told gives the status of a failure; another one ends
the program without a status. -/
def program (tools : Tools) (machine : Machine) (arguments : List String) : Run Outcome :=
  match Request.read tools.readOptions arguments with
  | .error _ => return { status := 2 }
  | .ok request =>
    tryCatch (do return { status := ← carryOut tools machine request }) fun fault => do
      if fault.isTold then
        Run.printError (Text.encodeUtf8 (tools.errorLine fault.summary))
        return { status := 1, told := some fault }
      else throw fault

end LintBench.CommandLine
