import LintBench.Files.Tree
import LintBench.Text.Lines

/-!
# Reading and changing files

The operations on a file tree. Each gives what it found or the changed tree, or
says why it fails; a failed operation changes nothing.
-/

namespace LintBench

open Text (Bytes)

/-- Whether a fault means that nothing usable stands at a path, where one only asks what does. -/
def FileFault.meansAbsent : FileFault → Bool
  | .missing | .notDirectory | .tooManyLinks | .nulInName => true
  | _ => false

namespace Tree

/-- The node that a path leads to. -/
def node (tree : Tree) (path : Path) : Except FileFault Node :=
  match tree.locate true path with
  | .ok ⟨_, some node⟩ => .ok node
  | .ok ⟨_, none⟩ => .error .missing
  | .error fault => .error fault

/-- Whether the node that a path leads to passes a test. -/
def nodeIs (tree : Tree) (test : Node → Bool) (path : Path) : Except FileFault Bool :=
  match tree.node path with
  | .ok node => .ok (test node)
  | .error fault => if fault.meansAbsent then .ok false else .error fault

/-- Whether a path leads to a file. -/
def isFile (tree : Tree) (path : Path) : Except FileFault Bool :=
  tree.nodeIs (fun | .file _ => true | _ => false) path

/-- Whether a path leads to a directory. -/
def isDirectory (tree : Tree) (path : Path) : Except FileFault Bool :=
  tree.nodeIs (fun | .directory => true | _ => false) path

/-- Whether a path leads to anything. -/
def isPresent (tree : Tree) (path : Path) : Except FileFault Bool :=
  tree.nodeIs (fun _ => true) path

/-- The content of a file. -/
def content (tree : Tree) (path : Path) : Except FileFault Bytes :=
  match tree.node path with
  | .ok (.file content) => .ok content
  | .ok _ => .error .isDirectory
  | .error fault => .error fault

/-- The content of a file as text. -/
def textContent (tree : Tree) (path : Path) : Except FileFault String :=
  (tree.content path).map fun content =>
    String.ofList (Text.normalizeLineEnds (Text.decodeUtf8Lossy content).toList)

/-- Give a file a content; a file that is not there is made. -/
def store (tree : Tree) (path : Path) (content : Bytes) : Except FileFault Tree :=
  match tree.locate true path with
  | .ok ⟨_, some .directory⟩ => .error .isDirectory
  | .ok ⟨place, _⟩ => .ok (tree.set place (.file content))
  | .error fault => .error fault

/-- Make a directory in one that is there. -/
def makeDirectory (tree : Tree) (path : Path) : Except FileFault Tree :=
  match tree.locate false path with
  | .ok ⟨_, some _⟩ => .error .occupied
  | .ok ⟨place, none⟩ => .ok (tree.set place .directory)
  | .error fault => .error fault

/-- Make sure of a directory: a fault to make it is none if it is there. -/
def ensureDirectory (tree : Tree) (path : Path) : Except FileFault Tree :=
  match tree.makeDirectory path with
  | .ok tree => .ok tree
  | .error fault =>
    match tree.isDirectory path with
    | .ok true => .ok tree
    | .ok false => .error fault
    | .error other => .error other

/-- Make sure of a directory and of those on the way to it; `reversed` are the names of its path,
the last one first. -/
def ensureAlong (tree : Tree) (anchor : Anchor) : List String → Except FileFault Tree
  | [] => tree.ensureDirectory { anchor }
  | name :: above =>
    let path : Path := { anchor, names := (name :: above).reverse }
    match tree.makeDirectory path with
    | .error .missing => do
      let tree ← ensureAlong tree anchor above
      tree.ensureDirectory path
    | _ => tree.ensureDirectory path

/-- Make sure of a directory and of those on the way to it. -/
def makeDirectories (tree : Tree) (path : Path) : Except FileFault Tree :=
  tree.ensureAlong path.anchor path.names.reverse

/-- Where a copy goes: into a directory under the copied file's name, or to the path itself. -/
def copyTarget (tree : Tree) (source target : Path) : Path :=
  match tree.isDirectory target with
  | .ok true => { target with names := target.names ++ [source.name] }
  | _ => target

/-- Whether two paths lead to the same node. -/
def sameNode (tree : Tree) (one other : Path) : Bool :=
  match tree.locate true one, tree.locate true other with
  | .ok ⟨place, some _⟩, .ok ⟨second, some _⟩ => place = second
  | _, _ => false

/-- Copy a file. -/
def copy (tree : Tree) (source target : Path) : Except FileFault Tree :=
  let goal := tree.copyTarget source target
  if tree.sameNode source goal then .error .sameFile
  else do
    let content ← tree.content source
    tree.store goal content

/-- Remove a file or a link. -/
def discard (tree : Tree) (path : Path) : Except FileFault Tree :=
  match tree.locate false path with
  | .ok ⟨_, none⟩ => .error .missing
  | .ok ⟨_, some .directory⟩ => .error .isDirectory
  | .ok ⟨place, _⟩ => .ok (tree.erase place)
  | .error fault => .error fault

/-- Remove a directory with all that is in it. -/
def discardAll (tree : Tree) (path : Path) : Except FileFault Tree :=
  match tree.locate false path with
  | .ok ⟨_, none⟩ => .error .missing
  | .ok ⟨place, some .directory⟩ => .ok (tree.erase place)
  | .ok _ => .error .notDirectory
  | .error fault => .error fault

/-- The files and links below a place, by the names that lead there from it, in no order. -/
def contentsBelow (tree : Tree) (base : Place) : List (Place × Node) :=
  tree.nodes.filterMap fun (place, node) =>
    if base.isPrefixOf place && node ≠ .directory then some (place.drop base.length, node) else none

end Tree

end LintBench
