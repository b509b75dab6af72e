import LintBench.Document.Json.Reader
import LintBench.Files.Resolution
import LintBench.Issue.Conversion

/-!
# Analysis results

An analyzer's result is a document whose issues get the resolved paths of their
files. An issue whose file does not resolve keeps its place with an empty path.
A result of the Marvin runner comes in a file of one of two formats, told apart
by the file's ending.
-/

namespace LintBench

open Text (Bytes)

/-- Why a document is not decoded. -/
inductive DocumentFault where
  /-- Its bytes are no text. -/
  | undecodable
  /-- It is no JSON. -/
  | json (fault : Json.Fault)
deriving DecidableEq, Repr

/-- The fault of a document in bytes. -/
def DocumentFault.ofBytes : Json.BytesFault → DocumentFault
  | .undecodable => .undecodable
  | .text fault => .json fault

/-- Why no result is read. -/
inductive ReadFault where
  /-- A file is not read, or a path is not resolved. -/
  | file (fault : FileFault)
  /-- The document is not decoded. -/
  | document (fault : DocumentFault)
  /-- The packed document in a file is not decoded; what decodes it says why. -/
  | packed (path : Path) (why : String)
  /-- The document in a file is no object. -/
  | notObject (path : Path)
  /-- The document is no result. -/
  | result (fault : ResultFault)
  /-- The document is not converted. -/
  | conversion (fault : MarvinFault)
deriving Repr

/-- What is told about a result that is not read, where the library has words of its own. -/
def ReadFault.message? : ReadFault → Option String
  | .file _ | .document _ => none
  | .packed path why => some s!"Invalid MessagePack in {path}: {why}"
  | .notObject path => some s!"Marvin result in {path} must be an object"
  | .result fault => fault.message?
  | .conversion fault => fault.message?

/-- Give an issue the resolved path of its file, which is looked for below a directory. -/
def Issue.resolveFile (tree : Tree) (codeDir : Path) (issue : Issue) : Except FileFault Issue := do
  let resolved ← tree.resolveReported codeDir issue.position.file
  return { issue with
    position := { issue.position with resolved := (resolved.map Path.toString).getD "" } }

/-- Read the issues of a decoded result. -/
def readResult (tree : Tree) (codeDir : Path) (document : Value) :
    Except ReadFault (List Issue) := do
  let issues ← (issuesOfValue document).mapError .result
  (issues.mapM (Issue.resolveFile tree codeDir)).mapError .file

/-- Read the issues of a result in bytes. -/
def readResultBytes (tree : Tree) (codeDir : Path) (content : Bytes) :
    Except ReadFault (List Issue) := do
  let document ← (Json.readBytes content).mapError fun fault => .document (.ofBytes fault)
  readResult tree codeDir document

/-- Read the issues of a result in a text. -/
def readResultText (tree : Tree) (codeDir : Path) (content : LooseText) :
    Except ReadFault (List Issue) := do
  let document ← (Json.read content).mapError fun fault => .document (.json fault)
  readResult tree codeDir document

/-- What decodes a packed document, or says why it is none. -/
abbrev Unpacker := Bytes → Except String Value

namespace Marvin

/-- The ending of a file with a packed result. -/
def packedEnding : String := ".mpack"

/-- Decode the content of a file. -/
def decode (unpack : Unpacker) (path : Path) (content : Bytes) : Except ReadFault Value :=
  if path.ending = packedEnding then (unpack content).mapError (.packed path)
  else (Json.readBytes content).mapError fun fault => .document (.ofBytes fault)

/-- Convert the content of a file; `path` is the file's path as it is told. -/
def ofContent (unpack : Unpacker) (path : Path) (content : Bytes) :
    Except ReadFault (List Issue) := do
  match ← decode unpack path content with
  | .object members => (issues members).mapError .conversion
  | _ => .error (.notObject path)

end Marvin

end LintBench
