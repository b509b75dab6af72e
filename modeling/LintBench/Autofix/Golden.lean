import LintBench.Autofix.Snapshot
import LintBench.LineDiff.Unified
import LintBench.Reconciliation

/-!
# Golden files

The file beside a fixture whose name has a further ending says what the fixture
is to look like after it was changed. A fixture that looks like that before
tells nothing.
-/

namespace LintBench

/-- The ending of a golden file. -/
def goldenEnding : String := ".golden"

/-- The golden file of a fixture; a path without a name has none. -/
def goldenPath? (path : Path) : Option Path := path.withName? (path.name ++ goldenEnding)

/-- A copied fixture with a golden file. -/
structure GoldenPair where
  /-- The fixture's path from the directory of the fixtures. -/
  relative : String
  /-- The fixture. -/
  fixture : Path
  /-- Its golden file. -/
  golden : Path
deriving DecidableEq, Repr, Inhabited

namespace Snapshot

/-- The golden file of a copied fixture, if it has one and is not left out; `codeDir` is the
directory of the fixtures. -/
def pair? (tree : Tree) (codeDir : Path) (excluded : List String) (relative : String) :
    Except FileFault (Option GoldenPair) := do
  let fixture := codeDir / Path.ofString relative
  if isExcluded excluded (← tree.resolveStrict fixture).toString then return none
  match goldenPath? fixture with
  | none => return none
  | some golden =>
    return if ← tree.isFile golden then some { relative, fixture, golden } else none

/-- The copied fixtures that have golden files and are not left out. -/
def goldenPairs (tree : Tree) (codeDir : Path) (excluded : List String) (snapshot : Snapshot) :
    Except FileFault (List GoldenPair) :=
  (snapshot.copied.mapM (pair? tree codeDir excluded)).map fun pairs => pairs.filterMap id

/-- The lines of a file, each with its end. -/
def linesOfFile (tree : Tree) (path : Path) : Except FileFault (List String) :=
  (tree.textContent path).map fun text => (Text.linesWithEnds text.toList).map String.ofList

/-- The file that was to be changed. -/
def changedFile (snapshot : Snapshot) (pair : GoldenPair) : Path :=
  match snapshot.place with
  | .scratch _ => pair.fixture
  | .given directory => directory / Path.ofString pair.relative

/-- The unified diffs between changed files and their golden files, by the paths of the fixtures.
Files without a difference have none. -/
def goldenDiffs (tree : Tree) (codeDir : Path) (excluded : List String) (snapshot : Snapshot) :
    Except FileFault (Keyed (List String)) := do
  let pairs ← snapshot.goldenPairs tree codeDir excluded
  let diffs ← pairs.mapM fun pair => do
    let changed ← linesOfFile tree (snapshot.changedFile pair)
    let golden ← linesOfFile tree pair.golden
    return (pair.fixture.toString,
      LineDiff.unified pair.relative (pair.relative ++ goldenEnding) changed golden)
  return diffs.filter fun (_, lines) => !lines.isEmpty

/-- The fixtures that are the same as their golden files. -/
def identicalFixtures (tree : Tree) (codeDir : Path) (excluded : List String)
    (snapshot : Snapshot) : Except FileFault (List String) := do
  let pairs ← snapshot.goldenPairs tree codeDir excluded
  let same ← pairs.filterM fun pair => do
    return (← tree.content pair.fixture) == (← tree.content pair.golden)
  return same.map fun pair => pair.fixture.toString

end Snapshot

end LintBench
