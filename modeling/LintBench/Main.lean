import LintBench.CommandLine.Program
import LintBench.Host.Tools
import LintBench.Host.Shell.Interpreter

/-!
# The program on a machine

The outer layer. It takes up the files below the working directory, lets the
program do what its arguments ask for, shows what it wrote, and brings the files
to the state that it left them in. A link to a file is taken up as that file.
-/

open LintBench

namespace LintBench.Host

/-- The variables that are passed on. -/
def variableNames : List String := ["INPUT_FILE", "HOME", "PATH", "LANG", "OSTYPE", "HOSTTYPE"]

/-- The variables of the environment. -/
def environment : IO (Keyed String) := do
  let values ← variableNames.mapM fun name => return (name, ← IO.getEnv name)
  return values.filterMap fun (name, value) => value.map (name, ·)

/-- Take up what an entry of a directory leads to. -/
partial def load (tree : Tree) (place : Place) (entry : IO.FS.DirEntry) : IO Tree := do
  let here := place ++ [entry.fileName]
  match (← entry.path.symlinkMetadata).type with
  | .dir =>
    (← entry.path.readDir).foldlM (fun tree entry => load tree here entry)
      (tree.set here .directory)
  | .file => return tree.set here (.file (← IO.FS.readBinFile entry.path).toList)
  | .symlink | .other =>
    if (← entry.path.pathExists) && !(← entry.path.isDir) then
      return tree.set here (.file (← IO.FS.readBinFile entry.path).toList)
    else return tree

/-- Bring the files below a directory from one state to another. -/
def save (base : Place) (before after : Tree) : IO Unit := do
  let start ← IO.currentDir
  let path (names : Place) := names.foldl (fun path name => path / name) start
  (before.contentsBelow base).forM fun (names, _) => do
    if after.get? (base ++ names) = none then IO.FS.removeFile (path names)
  after.nodes.forM fun (place, node) => do
    if base.isPrefixOf place && before.get? place ≠ some node then
      let target := path (place.drop base.length)
      match node with
      | .file content => IO.FS.writeBinFile target ⟨content.toArray⟩
      | .directory => IO.FS.createDirAll target
      | .link _ => return

/-- Write bytes to an output. -/
def write (output : IO.FS.Stream) (bytes : Text.Bytes) : IO Unit := do
  output.write ⟨bytes.toArray⟩
  output.flush

/-- Do what arguments ask for, and give the status. -/
def start (arguments : List String) : IO UInt32 := do
  let directory ← IO.currentDir
  let here := Path.ofString directory.toString
  let scratch := Path.ofNames ["tmp"]
  let bare := [here, scratch].foldl (fun tree path =>
    (tree.makeDirectories path).toOption.getD tree) ({} : Tree)
  let tree ← (← directory.readDir).foldlM (fun tree entry => load tree here.names entry) bare
  let environment ← environment
  let known (name : String) : String := (Keyed.get? environment name).getD "unknown"
  let tools := tools Shell.interpreter
  let machine : CommandLine.Machine := ⟨known "OSTYPE", known "HOSTTYPE"⟩
  let (outcome, world) :=
    (CommandLine.program tools machine arguments).run.run
      { tree, here, scratch, environment }
  write (← IO.getStdout) world.finalOutput
  write (← IO.getStderr) world.errors
  save here.names tree world.tree
  match outcome with
  | .ok outcome => return UInt32.ofNat outcome.status
  | .error fault =>
    write (← IO.getStderr) (Text.encodeUtf8 (tools.errorLine fault.summary))
    return 1

end LintBench.Host

/-- Run the program. -/
def main (arguments : List String) : IO UInt32 := LintBench.Host.start arguments
