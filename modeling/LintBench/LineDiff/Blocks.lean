/-!
# Matching blocks of lines

Two texts are compared by the blocks of lines that they have in common. The
longest block comes first: of several the one that starts earliest in the old
text, and of those the earliest in the new one. What lies before it and what
lies after it are compared in the same way. In a long text, a line that occurs
very often is not looked for; it is found only next to a block.
-/

namespace LintBench.LineDiff

/-- A block of lines that both texts have. -/
structure Block where
  /-- Where it starts in the old text. -/
  old : Nat
  /-- Where it starts in the new text. -/
  new : Nat
  /-- How many lines it has. -/
  size : Nat
deriving DecidableEq, Repr, Inhabited

/-- Two texts that are compared. -/
structure Sides where
  /-- The lines of the old text. -/
  old : Array String
  /-- The lines of the new text. -/
  new : Array String
deriving DecidableEq, Repr, Inhabited

/-- Bounds on the lines that are looked at. -/
structure Region where
  /-- The first old line. -/
  oldStart : Nat
  /-- The old line after the last one. -/
  oldStop : Nat
  /-- The first new line. -/
  newStart : Nat
  /-- The new line after the last one. -/
  newStop : Nat
deriving DecidableEq, Repr, Inhabited

namespace Sides

/-- How long a text is before frequent lines are left out. -/
def longText : Nat := 200

/-- Whether a line occurs too often in the new text to be looked for: in more than one of a hundred
lines, and once besides. -/
def isFrequent (sides : Sides) (line : String) : Bool :=
  longText ≤ sides.new.size && sides.new.size / 100 + 1 < sides.new.count line

/-- The places of a line in the new text, in ascending order. -/
def placesOf (sides : Sides) (line : String) : List Nat :=
  if sides.isFrequent line then []
  else (List.range sides.new.size).filter fun place => sides.new[place]? = some line

/-- The places of each old line in the new text. -/
def places (sides : Sides) : Array (List Nat) := sides.old.map sides.placesOf

/-- Follow the runs of common lines by one old line. `runs` has the length of the run that ends at
each new line, where there is one. -/
def extendRuns (region : Region) (oldLine : Nat) :
    List Nat → List (Nat × Nat) → Block → List (Nat × Nat) × Block
  | [], _, best => ([], best)
  | place :: rest, runs, best =>
    if place < region.newStart then extendRuns region oldLine rest runs best
    else if region.newStop ≤ place then ([], best)
    else
      let size := (if place = 0 then 0 else (runs.lookup (place - 1)).getD 0) + 1
      let best := if best.size < size then ⟨oldLine + 1 - size, place + 1 - size, size⟩ else best
      let (others, best) := extendRuns region oldLine rest runs best
      ((place, size) :: others, best)

/-- The longest block of lines that are looked for. -/
def longestRun (places : Array (List Nat)) (region : Region) : Block :=
  let lines := (List.range (region.oldStop - region.oldStart)).map (region.oldStart + ·)
  let start : List (Nat × Nat) × Block := ([], ⟨region.oldStart, region.newStart, 0⟩)
  (lines.foldl (fun (runs, best) line =>
    extendRuns region line (places[line]?.getD []) runs best) start).2

/-- Let a block take in equal lines before it, so many at most. -/
def growBack (sides : Sides) (region : Region) : Nat → Block → Block
  | 0, block => block
  | most + 1, block =>
    if region.oldStart < block.old ∧ region.newStart < block.new ∧
        sides.old[block.old - 1]? = sides.new[block.new - 1]? then
      growBack sides region most ⟨block.old - 1, block.new - 1, block.size + 1⟩
    else block

/-- Let a block take in equal lines after it, so many at most. -/
def growOn (sides : Sides) (region : Region) : Nat → Block → Block
  | 0, block => block
  | most + 1, block =>
    if block.old + block.size < region.oldStop ∧ block.new + block.size < region.newStop ∧
        sides.old[block.old + block.size]? = sides.new[block.new + block.size]? then
      growOn sides region most { block with size := block.size + 1 }
    else block

/-- The longest block of a region. -/
def longest (sides : Sides) (places : Array (List Nat)) (region : Region) : Block :=
  let most := region.oldStop - region.oldStart
  sides.growOn region most (sides.growBack region most (longestRun places region))

/-- The blocks of a region, in order. -/
def blocksIn (sides : Sides) (places : Array (List Nat)) (region : Region) : List Block :=
  let block := sides.longest places region
  if _inside : 0 < block.size ∧ region.oldStart ≤ block.old ∧
      block.old + block.size ≤ region.oldStop then
    let before :=
      if region.newStart < block.new then
        blocksIn sides places { region with oldStop := block.old, newStop := block.new }
      else []
    let after :=
      if block.new + block.size < region.newStop then
        blocksIn sides places
          { region with oldStart := block.old + block.size, newStart := block.new + block.size }
      else []
    before ++ block :: after
  else []
termination_by region.oldStop - region.oldStart
decreasing_by
  · simp only [block] at _inside ⊢
    omega
  · simp only [block] at _inside ⊢
    omega

/-- Join blocks that follow each other without a gap. -/
def joinBlocks : List Block → List Block
  | first :: second :: rest =>
    if first.old + first.size = second.old ∧ first.new + first.size = second.new then
      joinBlocks ({ first with size := first.size + second.size } :: rest)
    else first :: joinBlocks (second :: rest)
  | blocks => blocks
termination_by blocks => blocks.length

/-- The blocks that two texts have in common, in order. -/
def blocks (sides : Sides) : List Block :=
  joinBlocks (sides.blocksIn sides.places ⟨0, sides.old.size, 0, sides.new.size⟩)

end Sides

end LintBench.LineDiff
