import LintBench.Files.Access
import LintBench.Files.NamePattern
import LintBench.Text.Blank

/-!
# Searching a file tree

A search goes down from a directory along a row of patterns, one for each name,
and finds files. Two stars in place of a name stand for any number of
directories, none of them reached through a link. A found file is told by the
names that lead to it.
-/

namespace LintBench

/-- What a search pattern asks of the next name. -/
inductive SearchStep where
  /-- Any number of directories. -/
  | anyDepth
  /-- A name of its own. -/
  | named (name : String)
  /-- A name that a pattern stands for. -/
  | like (pattern : NamePattern)
deriving DecidableEq, Repr

/-- Why a search fails. -/
inductive SearchFault where
  /-- The pattern says where it starts. -/
  | absolutePattern
  /-- Two stars stand together with something else. -/
  | mixedDepth
  /-- The pattern names nothing: it is a single dot. -/
  | noName
  /-- The pattern names nothing but asks for a directory. -/
  | noDirectory
  /-- The tree does not let the search go on. -/
  | file (fault : FileFault)
deriving DecidableEq, Repr

/-- The steps of a search, and whether it ends at directories. -/
structure SearchPattern where
  /-- What is asked of each name. -/
  steps : List SearchStep
  /-- Whether only directories are found. -/
  directories : Bool
deriving DecidableEq, Repr

/-- Whether two stars in a row occur in a text. -/
def hasDoubleStar : List Char → Bool
  | '*' :: '*' :: _ => true
  | _ :: rest => hasDoubleStar rest
  | [] => false

/-- Read the pattern of one name. -/
def SearchStep.read (name : String) : Except SearchFault SearchStep :=
  let text := name.toList
  if name = "**" then .ok .anyDepth
  else if hasDoubleStar text then .error .mixedDepth
  else .ok (if NamePattern.isWild text then .like (NamePattern.read text) else .named name)

/-- Read a search pattern. -/
def SearchPattern.read (text : String) : Except SearchFault SearchPattern :=
  let path := Path.ofString text
  let directories := text.toList.getLast? = some '/'
  if path.isAbsolute then .error .absolutePattern
  else if path.names.isEmpty then .error (if directories then .noDirectory else .noName)
  else (path.names.mapM SearchStep.read).map fun steps => { steps, directories }

namespace Tree

/-- The names in the directory that a path leads to. -/
def list (tree : Tree) (path : Path) : List String :=
  match tree.locate true path with
  | .ok ⟨place, some .directory⟩ => tree.children place
  | _ => []

/-- The directories below a place, by the names that lead to them without links; the place itself
is the first. What a link on the way leads to is looked up, though the link is not followed. -/
def directoriesBelowPlace (tree : Tree) (place : Place) :
    Except FileFault (List (List String)) := do
  let below := tree.nodes.filter fun (other, _) => place.isPrefixOf other && place ≠ other
  below.forM fun
    | (other, .link _) => (tree.isDirectory (.ofNames other)).map fun _ => ()
    | _ => .ok ()
  return [] :: below.filterMap fun (other, node) =>
    if node = .directory then some (other.drop place.length) else none

/-- The directories below the one that a path leads to, by the names that lead to them without
links; the directory itself is the first. -/
def directoriesBelow (tree : Tree) (path : Path) : Except FileFault (List (List String)) :=
  match tree.locate true path with
  | .ok ⟨place, some .directory⟩ => tree.directoriesBelowPlace place
  | _ => .ok []

/-- The names that a search finds from a directory on, each row of them after those that led
there. -/
def select (tree : Tree) (base : Path) (directories : Bool) :
    List SearchStep → List String → Except FileFault (List (List String))
  | [], names => .ok [names]
  | step :: rest, names => do
    let here (more : List String) : Path := base / { names := names ++ more }
    let passes (more : List String) : Except FileFault Bool :=
      if directories || !rest.isEmpty then tree.isDirectory (here more)
      else tree.isPresent (here more)
    let next ← match step with
      | .anyDepth => tree.directoriesBelow (here [])
      | .named name => do
        let there ← passes [name]
        pure (if there then [[name]] else [])
      | .like pattern => do
        let entries ← (tree.list (here [])).filterM fun name =>
          if directories || !rest.isEmpty then tree.isDirectory (here [name]) else pure true
        pure ((entries.filter fun name => NamePattern.accepts pattern name.toList).map ([·]))
    let found ← next.mapM fun more => select tree base directories rest (names ++ more)
    return found.flatten

/-- The files that a search finds in a directory, each once, as paths from there in ascending
order. A blank pattern finds nothing. -/
def search (tree : Tree) (base : Path) (pattern : String) : Except SearchFault (List String) :=
  if Text.isAllBlank pattern then .ok []
  else do
    let read ← SearchPattern.read pattern
    let found : List (List String) ← Except.mapError SearchFault.file do
      if ← tree.isDirectory base then
        let selected ← tree.select base read.directories read.steps []
        selected.filterM fun names => tree.isFile (base / { names })
      else return []
    let paths := found.map fun names => ({ names : Path }).toString
    return paths.eraseDups.mergeSort fun one other => decide (one ≤ other)

end Tree

end LintBench
