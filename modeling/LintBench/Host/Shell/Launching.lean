import LintBench.Host.Programs.Lines
import LintBench.Host.Programs.StreamEditor
import LintBench.Host.Shell.State

/-!
# Programs of the machine

A name with a slash is the path of a program; any other name is looked for in the
directories that a variable lists. The programs of the machine stand in directories
of their own, and no file of the tree is one.
-/

namespace LintBench.Host.Shell

/-- The programs that are no shells, by their names. -/
def programs : List (String × Program) :=
  [("basename", Programs.basename), ("cat", Programs.cat), ("cp", Programs.cp),
    ("cut", Programs.cut), ("dirname", Programs.dirname), ("find", Programs.find),
    ("grep", Programs.grep), ("head", Programs.head), ("ln", Programs.ln), ("ls", Programs.ls),
    ("mkdir", Programs.mkdir), ("mv", Programs.mv), ("readlink", Programs.readlink),
    ("rm", Programs.rm), ("rmdir", Programs.rmdir), ("sed", Programs.sed), ("seq", Programs.seq),
    ("sleep", fun _ => return 0), ("sort", Programs.sort), ("tail", Programs.tail),
    ("tee", Programs.tee), ("touch", Programs.touch), ("tr", Programs.tr),
    ("uniq", Programs.uniq), ("wc", Programs.wc)]

/-- The family of the shell that a program's name stands for. -/
def shellDialect? : String → Option Dialect
  | "sh" => some .plain
  | "bash" => some .extended
  | _ => none

/-- Whether a name is that of a program of the machine. -/
def isKnown (name : String) : Bool := (shellDialect? name).isSome || (programs.lookup name).isSome

/-- Why something is not run. -/
inductive LaunchFault where
  /-- Its path leads nowhere. -/
  | file (fault : FileFault)
  /-- It is a file or a directory. -/
  | notRunnable
deriving DecidableEq, Repr, Inhabited

/-- The directories where the programs of the machine stand. -/
def programDirectories : List (List String) := [["bin"], ["usr", "bin"]]

/-- The directories where programs are looked for if no variable lists any. -/
def usualDirectories : Octets :=
  octets "/usr/local/sbin:/usr/local/bin:/usr/sbin:/usr/bin:/sbin:/bin"

/-- The names of a path from the root, as they are written. -/
def writtenNames (directory : List String) (path : Octets) : List String :=
  (Tree.linkSteps path.shown).foldl (fun names name =>
    if name = ".." then names.dropLast else names ++ [name])
    (if path.head? = some '/' then [] else directory)

/-- The program that stands at a path. -/
def programAt (tree : Tree) (directory : List String) (path : Octets) :
    Except LaunchFault String :=
  let names := writtenNames directory path
  let isProgram (names : List String) : Bool :=
    programDirectories.contains names.dropLast && isKnown (names.getLastD "")
  if isProgram names then .ok (names.getLastD "")
  else if names.getLast? = some "." && isProgram names.dropLast then .error (.file .notDirectory)
  else if (programDirectories.any fun other => names.isPrefixOf other) then .error .notRunnable
  else match spotFrom tree directory true path with
    | .ok ⟨_, some _⟩ => .error .notRunnable
    | .ok ⟨_, none⟩ => .error (.file .missing)
    | .error fault => .error (.file fault)

/-- The paths where a program may stand, if a variable lists directories or none does. -/
def candidates (listed : Option Octets) (name : Octets) : List Octets :=
  if name.contains '/' then [name]
  else (Text.splitOn ':' (listed.getD usualDirectories)).map fun directory =>
    if directory.isEmpty then name else Programs.inDirectory directory name

/-- The program that a name or a path stands for. If there is none, the first fault that says that
something was there counts, or else the last one. -/
def findProgram (tree : Tree) (directory : List String) (listed : Option Octets) (name : Octets) :
    Except LaunchFault String :=
  let outcomes := (candidates listed name).map (programAt tree directory)
  let isAbsence : Except LaunchFault String → Bool
    | .error (.file .missing) | .error (.file .notDirectory) => true
    | _ => false
  match outcomes.find? fun outcome => outcome matches .ok _ with
  | some found => found
  | none => (outcomes.find? fun outcome => !isAbsence outcome).getD
      (outcomes.getLastD (.error (.file .missing)))

end LintBench.Host.Shell
