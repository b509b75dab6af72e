/-!
# Requests

What the arguments of the program ask it to do. The arguments of a program are
options, the values of options, and others; they are parted by the reader of
options.
-/

namespace LintBench.CommandLine

/-- The names of the options that a command knows, each with what it means. Whether it takes a value
is said by its meaning. -/
structure Options (ι : Type) where
  /-- The long names, with their hyphens. -/
  long : List (String × ι)
  /-- The letters. -/
  short : List (Char × ι)
  /-- Whether an option takes a value. -/
  takesValue : ι → Bool

/-- Why arguments are not read. -/
inductive UsageFault where
  /-- An option is not known. -/
  | unknownOption
  /-- An option takes a value, and there is none. -/
  | lacksValue
  /-- An option takes no value, and there is one. -/
  | takesNoValue
  /-- There are more arguments than the command takes. -/
  | extraArgument
  /-- No command is named. -/
  | lacksCommand
  /-- The command is not known. -/
  | unknownCommand
deriving DecidableEq, Repr

/-- What arguments say: the options with their values, in order, and the other arguments. -/
structure Arguments (ι : Type) where
  /-- The options; one that takes no value has an empty one. -/
  options : List (ι × String) := []
  /-- The other arguments. -/
  others : List String := []
deriving Repr

/-- What parts arguments into options and others. `mixed` says that options may follow other
arguments. -/
abbrev OptionReader (ι : Type) :=
  Options ι → Bool → List String → Except UsageFault (Arguments ι)

/-- How a suite is to be run. -/
structure RunRequest where
  /-- The directory of the suite's configuration. -/
  directory : String := "."
  /-- Whether the messages are for people. -/
  pretty : Bool := false
  /-- The fixtures that the run is limited to, if there are any. -/
  files : List String := []
  /-- The directory for changed files; nothing stands for none. -/
  autofixDir : String := ""
deriving DecidableEq, Repr, Inhabited

/-- What the program is asked to do. -/
inductive Request where
  /-- To run a suite. -/
  | run (request : RunRequest)
  /-- To convert a result. -/
  | convert
  /-- To tell its version. -/
  | version
  /-- To tell how it is used. -/
  | help
deriving DecidableEq, Repr

/-- What an option of the program means. -/
inductive Meaning where
  /-- How the program is used is asked for. -/
  | help
  /-- A log is asked for. None is written. -/
  | verbose
  /-- The directory of the suite. -/
  | directory
  /-- The messages are for people. -/
  | pretty
  /-- The messages are for programs. -/
  | plain
  /-- A fixture that the run is limited to. -/
  | file
  /-- The directory for changed files. -/
  | autofixDir
deriving DecidableEq, Repr

/-- Whether an option takes a value. -/
def Meaning.takesValue : Meaning → Bool
  | .directory | .file | .autofixDir => true
  | .help | .verbose | .pretty | .plain => false

/-- The options that stand before the name of a command. -/
def programOptions : Options Meaning :=
  { long := [("--help", .help)], short := [], takesValue := Meaning.takesValue }

/-- The options of a conversion. -/
def convertOptions : Options Meaning :=
  { long := [("--help", .help), ("--verbose", .verbose)]
    short := [('v', .verbose)]
    takesValue := Meaning.takesValue }

/-- The options of a run. -/
def runOptions : Options Meaning :=
  { long := [("--help", .help), ("--verbose", .verbose), ("--cwd", .directory),
      ("--pretty", .pretty), ("--no-pretty", .plain), ("--files", .file),
      ("--autofix-dir", .autofixDir)]
    short := [('v', .verbose), ('c', .directory), ('p', .pretty), ('f', .file),
      ('a', .autofixDir)]
    takesValue := Meaning.takesValue }

/-- A request with an option added. Where an option is given twice, the last one counts; fixtures
add up. -/
def RunRequest.apply (request : RunRequest) : Meaning × String → RunRequest
  | (.directory, value) => { request with directory := value }
  | (.pretty, _) => { request with pretty := true }
  | (.plain, _) => { request with pretty := false }
  | (.file, value) => { request with files := request.files ++ [value] }
  | (.autofixDir, value) => { request with autofixDir := value }
  | (.help, _) | (.verbose, _) => request

/-- The arguments of a command that takes options alone. How it is used is told before anything else
is looked at. -/
def requestOf (readOptions : OptionReader Meaning) (options : Options Meaning)
    (arguments : List String) (make : List (Meaning × String) → Request) :
    Except UsageFault Request := do
  let read ← readOptions options true arguments
  if read.options.any fun option => option.1 = .help then return .help
  else if read.others.isEmpty then return make read.options
  else throw .extraArgument

/-- Read the arguments of the program. -/
def Request.read (readOptions : OptionReader Meaning) (arguments : List String) :
    Except UsageFault Request := do
  let read ← readOptions programOptions false arguments
  if read.options.any fun option => option.1 = .help then return .help
  match read.others with
  | [] => throw .lacksCommand
  | command :: rest =>
    match command with
    | "run" =>
      requestOf readOptions runOptions rest fun options =>
        .run (options.foldl RunRequest.apply {})
    | "process-marvin-result" => requestOf readOptions convertOptions rest fun _ => .convert
    | "version" => requestOf readOptions programOptions rest fun _ => .version
    | _ => throw .unknownCommand

end LintBench.CommandLine
