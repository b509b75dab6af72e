import LintBench.Fixture.Extraction
import LintBench.Run.World

/-!
# The fixtures of a suite

The fixture files are those that the suite's pattern finds below its directory.
A run can be limited to some of them, which are named by their resolved paths.
-/

namespace LintBench

/-- Whether a resolved path is among those that a run is limited to; no paths limit nothing. -/
def isIncluded (included : List String) (resolved : String) : Bool :=
  included.isEmpty || included.contains resolved

/-- The resolved path of a found file, if it resolves and is among those included. -/
def includedPath (tree : Tree) (included : List String) (path : Path) :
    Except FileFault (Option String) := do
  match ← tree.resolveIfThere path with
  | some resolved =>
    return if isIncluded included resolved.toString then some resolved.toString else none
  | none => return none

/-- Read a fixture file. -/
def readFixture (tree : Tree) (markers : List String) (path : Path) :
    Except RunFault FixtureFile := do
  let content ← (tree.textContent path).mapError .file
  (FixtureFile.ofSource path.name content markers).mapError .grammar

/-- Read the fixture files of a suite, by their resolved paths. -/
def readFixtures (tree : Tree) (config : Config) (included : List String) :
    Except RunFault (Keyed FixtureFile) := do
  let codeDir ← (config.codeDir tree).mapError .file
  let found ← (tree.search codeDir config.files).mapError .search
  found.foldlM (fun files relative => do
    let path := codeDir / Path.ofString relative
    match ← (includedPath tree included path).mapError RunFault.file with
    | none => return files
    | some resolved =>
      return Keyed.set files resolved (← readFixture tree config.commentMarkers path)) []

end LintBench
