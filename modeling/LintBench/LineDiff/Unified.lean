import LintBench.LineDiff.Blocks

/-!
# Unified diffs

What changes between two texts is told in hunks: the lines that are taken away
and the lines that are added, with some equal lines around them. Changes stand
in one hunk if the equal lines between them would all be shown.
-/

namespace LintBench.LineDiff

/-- What becomes of a stretch of lines. -/
inductive Change where
  /-- The lines are the same on both sides. -/
  | same
  /-- The old lines are taken away and the new ones added. -/
  | replaced
deriving DecidableEq, Repr, Inhabited

/-- A stretch of old lines and of new lines, and what becomes of them. -/
structure Stretch where
  /-- What becomes of the lines. -/
  change : Change
  /-- The lines. -/
  region : Region
deriving DecidableEq, Repr, Inhabited

/-- How many equal lines are shown around a change. -/
def contextLines : Nat := 3

/-- The stretches between and in blocks, from a point of both texts on. -/
def stretchesFrom (sides : Sides) (old new : Nat) : List Block → List Stretch
  | [] =>
    if old < sides.old.size ∨ new < sides.new.size then
      [⟨.replaced, ⟨old, sides.old.size, new, sides.new.size⟩⟩]
    else []
  | block :: rest =>
    let gap := if old < block.old ∨ new < block.new then
        [⟨.replaced, ⟨old, block.old, new, block.new⟩⟩]
      else []
    let oldStop := block.old + block.size
    let newStop := block.new + block.size
    gap ++ ⟨.same, ⟨block.old, oldStop, block.new, newStop⟩⟩ ::
      stretchesFrom sides oldStop newStop rest

/-- The stretches of two texts. -/
def stretches (sides : Sides) : List Stretch := stretchesFrom sides 0 0 sides.blocks

namespace Stretch

/-- The last lines of a stretch, as many as are shown around a change. -/
def ending (stretch : Stretch) : Stretch :=
  let region := stretch.region
  { stretch with region := { region with
      oldStart := max region.oldStart (region.oldStop - contextLines)
      newStart := max region.newStart (region.newStop - contextLines) } }

/-- The first lines of a stretch, as many as are shown around a change. -/
def beginning (stretch : Stretch) : Stretch :=
  let region := stretch.region
  { stretch with region := { region with
      oldStop := min region.oldStop (region.oldStart + contextLines)
      newStop := min region.newStop (region.newStart + contextLines) } }

/-- Whether a stretch of equal lines is too long to be shown between two changes. -/
def parts (stretch : Stretch) : Bool :=
  stretch.change = .same && 2 * contextLines < stretch.region.oldStop - stretch.region.oldStart

end Stretch

/-- Show the first stretch by its end alone, if its lines are equal. -/
def cutFirst : List Stretch → List Stretch
  | first :: rest => (if first.change = .same then first.ending else first) :: rest
  | [] => []

/-- Show the last stretch by its beginning alone, if its lines are equal. -/
def cutLast : List Stretch → List Stretch
  | [] => []
  | [last] => [if last.change = .same then last.beginning else last]
  | first :: rest => first :: cutLast rest

/-- Cut the stretches into hunks, after those of the hunk that was begun. -/
def hunksFrom (begun : List Stretch) : List Stretch → List (List Stretch)
  | [] => [begun]
  | stretch :: rest =>
    if stretch.parts then (begun ++ [stretch.beginning]) :: hunksFrom [stretch.ending] rest
    else hunksFrom (begun ++ [stretch]) rest

/-- The hunks of two texts. -/
def hunks (sides : Sides) : List (List Stretch) :=
  (hunksFrom [] (cutLast (cutFirst (stretches sides)))).filter fun hunk =>
    hunk.any fun stretch => stretch.change ≠ .same

/-- The lines from a start to a stop. -/
def linesIn (lines : Array String) (start stop : Nat) : List String :=
  (lines.extract start stop).toList

/-- The start and number of lines in a hunk's header. The number is left out if it is one; the
start of no lines is the line before them. -/
def rangeText (start stop : Nat) : String :=
  let size := stop - start
  if size = 1 then toString (start + 1)
  else s!"{if size = 0 then start else start + 1},{size}"

/-- The lines that tell a stretch. -/
def stretchLines (sides : Sides) (stretch : Stretch) : List String :=
  let region := stretch.region
  let old := linesIn sides.old region.oldStart region.oldStop
  let new := linesIn sides.new region.newStart region.newStop
  match stretch.change with
  | .same => old.map (" " ++ ·)
  | .replaced => old.map ("-" ++ ·) ++ new.map ("+" ++ ·)

/-- The header of a hunk. -/
def hunkHeader (hunk : List Stretch) : String :=
  let first := (hunk.head?.getD default).region
  let last := (hunk.getLast?.getD default).region
  "@@ -" ++ rangeText first.oldStart last.oldStop ++ " +" ++ rangeText first.newStart last.newStop
    ++ " @@\n"

/-- The lines that tell a hunk. -/
def hunkLines (sides : Sides) (hunk : List Stretch) : List String :=
  hunkHeader hunk :: hunk.flatMap (stretchLines sides)

/-- The lines of the unified diff of two texts; there are none if the texts are equal. -/
def unified (oldName newName : String) (old new : List String) : List String :=
  let sides : Sides := ⟨old.toArray, new.toArray⟩
  match hunks sides with
  | [] => []
  | found => ("--- " ++ oldName ++ "\n") :: ("+++ " ++ newName ++ "\n") ::
      found.flatMap (hunkLines sides)

end LintBench.LineDiff
