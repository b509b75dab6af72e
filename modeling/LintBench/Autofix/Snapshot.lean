import LintBench.Suite.Fixtures

/-!
# Snapshots of fixtures

Before the fixtures are changed they are copied: into a directory of the run's
own, from which they are put back later, or into a directory that the changes
are made in, so that the fixtures stay as they are. What the ignore file of the
fixtures' directory says is ignored is not copied.
-/

namespace LintBench

/-- What reads the lines of an ignore file: it tells which paths from the file's directory are
ignored. -/
abbrev IgnoreReader := List String → Except IgnoreFault (String → Bool)

/-- Where the copies of fixtures are. -/
inductive CopyPlace where
  /-- In a directory of the run's own; the fixtures themselves are changed. -/
  | scratch (directory : Path)
  /-- In the directory where the changes are made. -/
  | given (directory : Path)
deriving DecidableEq, Repr, Inhabited

/-- The directory of the copies. -/
def CopyPlace.directory : CopyPlace → Path
  | .scratch directory | .given directory => directory

/-- Copies of the fixtures of a suite. -/
structure Snapshot where
  /-- The directory of the fixtures. -/
  codeDir : Path
  /-- Where the copies are. -/
  place : CopyPlace
  /-- The copied files, by their paths from the directory. -/
  copied : List String := []
  /-- Whether the fixtures have been put back. -/
  restored : Bool := false
deriving DecidableEq, Repr, Inhabited

namespace Snapshot

/-- Whether the fixtures themselves are changed. -/
def inPlace (snapshot : Snapshot) : Bool :=
  match snapshot.place with
  | .scratch _ => true
  | .given _ => false

/-- The name of the ignore file. -/
def ignoreName : String := ".gitignore"

/-- Which paths the ignore file in a directory says are ignored; without one there are none. -/
def ignoredPaths (readRules : IgnoreReader) (tree : Tree) (codeDir : Path) :
    Except RunFault (String → Bool) := do
  let path := codeDir / { names := [ignoreName] }
  if ← (tree.isFile path).mapError RunFault.file then
    let text ← (tree.textContent path).mapError RunFault.file
    let lines := (Text.linesWithEnds text.toList).map fun line =>
      String.ofList (Text.withoutEnd line)
    (readRules lines).mapError .ignoreRules
  else return fun _ => false

/-- Copy a file, and make the directories that it goes to. -/
def copyInto (source target : Path) : Run Unit := do
  Run.change (·.makeDirectories target.parent)
  Run.change (·.copy source target)

/-- Copy those of the found files that take part, and give their paths. -/
def copyFound (codeDir target : Path) (included : List String) (ignored : String → Bool) :
    List String → Run (List String)
  | [] => return []
  | relative :: rest => do
    let path := codeDir / Path.ofString relative
    let takesPart ← Run.look (includedPath · included path)
    if takesPart.isSome && !ignored relative then
      copyInto path (target / Path.ofString relative)
      return relative :: (← copyFound codeDir target included ignored rest)
    else copyFound codeDir target included ignored rest

/-- Make a directory of the run's own. -/
def makeScratch : Run Path := do
  let path ← Run.freshPath "backup-"
  Run.change (·.makeDirectory path)
  return path

/-- Copy the fixtures that take part. If the file tree does not allow that, the directory of the
run's own is removed again. -/
def take (readRules : IgnoreReader) (config : Config) (included : List String)
    (given : Option Path) : Run Snapshot := do
  let codeDir ← Run.look config.codeDir
  let ignored ← Run.ofExcept id (ignoredPaths readRules (← get).tree codeDir)
  let place ← match given with
    | some directory => pure (CopyPlace.given directory)
    | none => CopyPlace.scratch <$> makeScratch
  let copied ← tryCatch
    (do
      let found ← Run.ofExcept .search ((← get).tree.search codeDir config.files)
      copyFound codeDir place.directory included ignored found)
    fun fault => do
      if fault.ofTree then
        match place with
        | .scratch directory =>
          modify fun world =>
            { world with tree := (world.tree.discardAll directory).toOption.getD world.tree }
        | .given _ => pure ()
      throw fault
  return { codeDir, place, copied }

/-- Put the fixtures back and remove the copies, unless that has been tried. Copies in a given
directory stay. -/
def restore (snapshot : Snapshot) : Run Unit :=
  match snapshot.restored, snapshot.place with
  | false, .scratch directory => do
    snapshot.copied.forM fun relative =>
      copyInto (directory / Path.ofString relative) (snapshot.codeDir / Path.ofString relative)
    Run.change (·.discardAll directory)
  | _, _ => pure ()

/-- A snapshot after it was tried to put the fixtures back. -/
def afterRestore (snapshot : Snapshot) : Snapshot := { snapshot with restored := true }

end Snapshot

end LintBench
