import LintBench.Fixture.Basic

/-!
# Reading fixture files

The comment of a line starts after the first marker in it. An expectation in a
trailing comment is for its own line. One in a comment that takes the whole line
is for the line below, and expectations of such lines stack up: the newest goes
first and takes in the one above it. A first line may also hold a directive.
-/

namespace LintBench

open Text

/-- The lines of a text; a carriage return before a line's end is no part of it. -/
def linesOf (content : String) : List (List Char) :=
  (splitOn '\n' content.toList).map (dropFinal '\r')

/-- The first of the markers that occurs in a line, and the comment after it. -/
def findComment (markers : List (List Char)) (line : List Char) :
    Option (List Char × List Char) :=
  markers.findSome? fun marker =>
    if marker.isEmpty then none else (afterFirst marker line).map (marker, ·)

/-- Whether a line, its blanks trimmed, starts with one of the markers. -/
def isCommentLine (markers : List (List Char)) (line : List Char) : Bool :=
  markers.any fun marker => !marker.isEmpty && marker.isPrefixOf (trim line)

/-- Put the expectation of a line into the index. It takes in the expectation already at its place;
and it takes in, and removes, the one just above its place, if that came from a comment line and
the line above is one. -/
def placeExpectation (markers : List (List Char)) (lines : List (List Char)) (index : LineIndex)
    (line : Nat) (alone : Bool) (expectation : Expectation) : LineIndex :=
  let target := if alone then line + 1 else line
  let fresh := { expectation with fromCommentLine := alone }
  let withPresent := match index.get? target with
    | some present =>
      { fresh.merge present with
        folded := fresh.folded || (present.fromCommentLine && !alone) }
    | none => fresh
  match index.get? (target - 1) with
  | some above =>
    if above.fromCommentLine && !above.folded
        && isCommentLine markers (lines.getD (target - 2) []) then
      LineIndex.set (LineIndex.erase index (target - 1)) target (withPresent.merge above)
    else LineIndex.set index target withPresent
  | none => LineIndex.set index target withPresent

/-- Read one line, whose number counts from one. -/
def FixtureFile.readLine (markers : List (List Char)) (lines : List (List Char))
    (file : FixtureFile) (numbered : List Char × Nat) : Except GrammarError FixtureFile :=
  let (text, line) := numbered
  let stripped := trim text
  match findComment markers stripped with
  | none => .ok file
  | some (marker, comment) =>
    let directed := if line = 1 then { file with mode := file.mode.follow comment } else file
    (Expectation.read comment).map fun expectation =>
      if expectation.details.isEmpty then directed
      else
        { directed with
          expectations := placeExpectation markers lines directed.expectations line
            (marker.isPrefixOf stripped) expectation }

/-- Read a fixture file: its name, which may have an ending, its content, and the markers that
start a comment in it. -/
def FixtureFile.ofSource (name content : String) (markers : List String) :
    Except GrammarError FixtureFile :=
  let lines := linesOf content
  let marks := markers.map String.toList
  (lines.zipIdx 1).foldlM (FixtureFile.readLine marks lines) { name := (Path.ofString name).stem }

end LintBench
