import LintBench.Document.Toml.Reader
import LintBench.Files.Resolution

/-!
# Suite configurations

A suite is a directory of fixture files with a configuration file beside it. The
configuration says which files are fixtures, how comments start in them, which
directories are left out, and which scripts run the analyzer. A part that is
left out has a default; a part of another kind than asked for is a fault that
names its key.
-/

namespace LintBench

open Text (Bytes)

/-- The name of a configuration file. -/
def configName : String := ".scatr.toml"

/-- What runs a script for which no interpreter is named. -/
def defaultInterpreter : String := "sh"

/-- A script that runs the analyzer, and how it is run. -/
structure Script where
  /-- The program that runs it. -/
  interpreter : String := defaultInterpreter
  /-- Its text. -/
  body : String := ""
  /-- The file that it leaves its result in, from the suite's directory. -/
  outputFile : String := ""
  /-- Whether it has the terminal to itself. -/
  interactive : Bool := false
  /-- The arguments before the script's own file. -/
  arguments : List String := []
deriving DecidableEq, Repr, Inhabited

/-- The script that turns an analyzer's output into a result. -/
structure Processor where
  /-- The program that runs it. -/
  interpreter : String := defaultInterpreter
  /-- Its text. -/
  body : String := ""
  /-- Whether the analyzer's output is a result as it is. -/
  skipped : Bool := false
deriving DecidableEq, Repr, Inhabited

/-- The configuration of a suite. -/
structure Config where
  /-- The directory of the configuration file; other paths start there. -/
  root : Path
  /-- The search pattern of the fixture files. -/
  files : String := ""
  /-- What starts a comment in them. -/
  commentMarkers : List String := []
  /-- The directory of the fixture files, as it was written. -/
  codePath : String := "."
  /-- The directories that are left out, as they were written. -/
  excluded : List String := []
  /-- The script whose result is compared with the expectations. -/
  checks : Script := {}
  /-- The script that changes the fixture files. -/
  autofix : Script := {}
  /-- What makes a result of the output of the checks. -/
  processor : Processor := {}
  /-- Whether checks are tested. -/
  testChecks : Bool := false
  /-- Whether changes to the fixture files are tested. -/
  testAutofix : Bool := false
deriving DecidableEq, Repr, Inhabited

/-- Why no configuration is read. -/
inductive ConfigFault where
  /-- There is no file at a path. -/
  | missing (path : Path)
  /-- The file or its path is not reached. -/
  | file (fault : FileFault)
  /-- The bytes of the file are no text. -/
  | undecodable
  /-- The text is not read. -/
  | document (fault : Toml.Fault)
  /-- A value is not of the kind that its key asks for. -/
  | wrongKind (key : String) (expected got : Toml.Kind)
  /-- A list has something else than texts in it. -/
  | notTexts (key : String)
deriving DecidableEq, Repr

/-- The name of a kind in a message. -/
def Toml.Kind.name : Toml.Kind → String
  | .text => "str"
  | .integer => "int"
  | .decimal => "float"
  | .bool => "bool"
  | .list => "list"
  | .table => "dict"
  | .date => "date"
  | .dateTime => "datetime"
  | .time => "time"

/-- What is told about a configuration that is not read, where the library has words of its
own. -/
def ConfigFault.message? : ConfigFault → Option String
  | .missing path => some s!"Config not found: {path}"
  | .wrongKind key expected got => some s!"{key}: expected {expected.name}, got {got.name}"
  | .notTexts key => some s!"{key}: expected a list of strings"
  | .file _ | .undecodable | .document _ => none

namespace Config

/-- The directory of the fixture files. -/
def codeDir (config : Config) (tree : Tree) : Except FileFault Path :=
  let written := Text.trimmed config.codePath
  tree.resolveLenient (config.root / Path.ofString (if written = "" then "." else written))

/-- The path of a directory with a slash at its end. -/
def closePath (path : Path) : String :=
  if path.names.isEmpty then path.toString else path.toString ++ "/"

/-- The directories that are left out, each with a slash at its end. -/
def excludedPaths (config : Config) (tree : Tree) : Except FileFault (List String) := do
  let named := config.excluded.filter fun directory => !Text.isAllBlank directory
  if named.isEmpty then return []
  let code ← config.codeDir tree
  named.mapM fun directory => do
    return closePath (← tree.resolveLenient (code / Path.ofString directory))

/-! ## Reading -/

open Toml (Table Kind)

/-- The value under a key, or a default; `read` gives the value of the kind that is asked for. -/
def get {α : Type} (kind : Kind) (read : Toml.Value → Option α) (table : Table) (owner key : String)
    (default : α) : Except ConfigFault α :=
  match Keyed.get? table key with
  | none => .ok default
  | some value =>
    match read value with
    | some found => .ok found
    | none => .error (.wrongKind (owner ++ key) kind value.kind)

/-- The text under a key. -/
def getText (table : Table) (owner key default : String) : Except ConfigFault String :=
  get .text Toml.Value.text? table owner key default

/-- The truth value under a key. -/
def getBool (table : Table) (owner key : String) (default : Bool) : Except ConfigFault Bool :=
  get .bool (fun | .bool value => some value | _ => none) table owner key default

/-- The table under a key. -/
def getTable (table : Table) (key : String) : Except ConfigFault Table :=
  get .table (fun | .table members => some members | _ => none) table "" key []

/-- The texts under a key. -/
def getTexts (table : Table) (owner key : String) : Except ConfigFault (List String) := do
  let items ← get .list (fun | .list items => some items | _ => none) table owner key []
  match items.mapM Toml.Value.text? with
  | some texts => .ok texts
  | none => .error (.notTexts (owner ++ key))

/-- An interpreter's name; an empty one stands for the default. -/
def getInterpreter (table : Table) (owner : String) : Except ConfigFault String := do
  let named ← getText table owner "interpreter" ""
  return if named = "" then defaultInterpreter else named

/-- Read the table of a script. -/
def readScript (document : Table) (name : String) : Except ConfigFault Script := do
  let table ← getTable document name
  let owner := name ++ "."
  let interpreter ← getInterpreter table owner
  let body ← getText table owner "script" ""
  let outputFile ← getText table owner "output_file" ""
  let interactive ← getBool table owner "interactive" false
  let arguments ← getTexts table owner "args"
  return { interpreter, body, outputFile, interactive, arguments }

/-- Read the table of the processor. -/
def readProcessor (document : Table) : Except ConfigFault Processor := do
  let table ← getTable document "processor"
  let owner := "processor."
  let interpreter ← getInterpreter table owner
  let body ← getText table owner "script" ""
  let skipped ← getBool table owner "skip_processing" false
  return { interpreter, body, skipped }

/-- Read a document. What is tested goes by whether a script's table is there, unless it is
said. -/
def ofTable (root : Path) (document : Table) : Except ConfigFault Config := do
  let testChecks ← getBool document "" "test_checks" (Keyed.has document "checks")
  let testAutofix ← getBool document "" "test_autofix" (Keyed.has document "autofix")
  let files ← getText document "" "files" ""
  let commentMarkers ← getTexts document "" "comment_prefix"
  let codePath ← getText document "" "code_path" "."
  let excluded ← getTexts document "" "excluded_dirs"
  let checks ← readScript document "checks"
  let autofix ← readScript document "autofix"
  let processor ← readProcessor document
  return {
    root, files, commentMarkers, codePath, excluded
    checks, autofix, processor, testChecks, testAutofix }

/-- Read the content of a configuration file. -/
def ofContent (root : Path) (content : Bytes) : Except ConfigFault Config :=
  match Text.decodeUtf8? content with
  | none => .error .undecodable
  | some text => ((Toml.read text).mapError .document).bind (ofTable root)

/-- Read a configuration file. `shown` is its path as it is told, and `path` the one from the root
of the tree. -/
def load (tree : Tree) (shown path : Path) : Except ConfigFault Config := do
  if ← (tree.isFile path).mapError .file then
    let content ← (tree.content path).mapError .file
    let resolved ← (tree.resolveLenient path).mapError .file
    ofContent resolved.parent content
  else .error (.missing shown)

end Config

end LintBench
