import LintBench.Proofs.LineDiff.Unified

/-!
# Unified diffs as rows

The lines of a unified diff are rows of hunks: lines that are taken away, that are
added, or that are kept, each with its number in the text that it is of. A row of
hunks goes through both texts from the first lines to the last, and passes over no
line but where both texts have the same.
-/

namespace LintBench.LineDiff

/-- A line of a diff below its first two, with the number of the line that it tells. Numbers count
from one. -/
inductive Row where
  /-- The header of a hunk, with the lines that the hunk shows. -/
  | start (shown : Region)
  /-- A line that is taken away, with its number in the old text. -/
  | removed (number : Nat) (line : String)
  /-- A line that is added, with its number in the new text. -/
  | added (number : Nat) (line : String)
  /-- A line that is the same on both sides, with its number in the new text. -/
  | kept (number : Nat) (line : String)
deriving DecidableEq, Repr

/-- The line of a diff that a row is. -/
def Row.text : Row → String
  | .start shown => "@@ -" ++ rangeText shown.oldStart shown.oldStop ++ " +" ++
      rangeText shown.newStart shown.newStop ++ " @@\n"
  | .removed _ line => "-" ++ line
  | .added _ line => "+" ++ line
  | .kept _ line => " " ++ line

/-! ## The rows of two texts -/

/-- Rows of one kind for the lines from a start to a stop, whose numbers may be those of other
lines. -/
def rowsOf (row : Nat → String → Row) (lines : Array String) (start stop number : Nat) : List Row :=
  ((linesIn lines start stop).zipIdx number).map fun (line, number) => row number line

/-- The rows that tell a stretch. -/
def stretchRows (sides : Sides) (stretch : Stretch) : List Row :=
  let region := stretch.region
  match stretch.change with
  | .same => rowsOf .kept sides.old region.oldStart region.oldStop (region.newStart + 1)
  | .replaced => rowsOf .removed sides.old region.oldStart region.oldStop (region.oldStart + 1) ++
      rowsOf .added sides.new region.newStart region.newStop (region.newStart + 1)

/-- The lines that a hunk shows. -/
def hunkRegion (hunk : List Stretch) : Region :=
  let first := (hunk.head?.getD default).region
  let last := (hunk.getLast?.getD default).region
  ⟨first.oldStart, last.oldStop, first.newStart, last.newStop⟩

/-- The rows that tell a hunk. -/
def hunkRows (sides : Sides) (hunk : List Stretch) : List Row :=
  .start (hunkRegion hunk) :: hunk.flatMap (stretchRows sides)

/-- The rows of the diff of two texts. -/
def diffRows (sides : Sides) : List Row := (hunks sides).flatMap (hunkRows sides)

/-- The lines that rows of one kind are. -/
theorem map_text_rowsOf (row : Nat → String → Row) (mark : String)
    (marked : ∀ number line, (row number line).text = mark ++ line) (lines : Array String)
    (start stop number : Nat) :
    (rowsOf row lines start stop number).map Row.text =
      (linesIn lines start stop).map (mark ++ ·) := by
  rw [rowsOf, List.map_map]
  have one : (Row.text ∘ fun entry : String × Nat => row entry.2 entry.1) =
      (mark ++ ·) ∘ Prod.fst := by
    funext entry
    exact marked entry.2 entry.1
  have numbered := congrArg (List.map (mark ++ ·))
    (List.zipIdx_map_fst number (linesIn lines start stop))
  rw [List.map_map] at numbered
  exact (congrArg (List.map · _) one).trans numbered

/-- The lines that tell a hunk are its rows. -/
theorem hunkLines_eq (sides : Sides) (hunk : List Stretch) :
    hunkLines sides hunk = (hunkRows sides hunk).map Row.text := by
  have stretch_eq : ∀ stretch, stretchLines sides stretch =
      (stretchRows sides stretch).map Row.text := by
    intro stretch
    unfold stretchLines stretchRows
    cases stretch.change with
    | same => exact (map_text_rowsOf .kept " " (fun _ _ => rfl) _ _ _ _).symm
    | replaced =>
      simp only [List.map_append]
      rw [map_text_rowsOf .removed "-" fun _ _ => rfl, map_text_rowsOf .added "+" fun _ _ => rfl]
  rw [hunkLines, hunkRows, List.map_cons, List.map_flatMap]
  congr 1
  exact congrArg (List.flatMap · hunk) (funext stretch_eq)

/-- A unified diff is the names of two files and the rows of its hunks, if there are any. -/
theorem unified_eq (oldName newName : String) (old new : List String) :
    unified oldName newName old new =
      if diffRows ⟨old.toArray, new.toArray⟩ = [] then []
      else ("--- " ++ oldName ++ "\n") :: ("+++ " ++ newName ++ "\n") ::
        (diffRows ⟨old.toArray, new.toArray⟩).map Row.text := by
  have lines : ∀ found : List (List Stretch),
      found.flatMap (hunkLines ⟨old.toArray, new.toArray⟩) =
        (found.flatMap (hunkRows ⟨old.toArray, new.toArray⟩)).map Row.text := by
    intro found
    rw [List.map_flatMap]
    exact congrArg (List.flatMap · found) (funext (hunkLines_eq _))
  unfold unified diffRows
  simp only
  cases hunks ⟨old.toArray, new.toArray⟩ with
  | nil => rfl
  | cons hunk rest =>
    rw [if_neg (by simp [hunkRows]), ← lines]

/-! ## True numbers -/

/-- Whether rows tell the lines of two texts up to some place of both: each row has the next line of
its text, with its number. -/
inductive Tells (sides : Sides) (oldStop newStop : Nat) : Nat → Nat → List Row → Prop
  /-- At the place nothing is left to tell. -/
  | ended : Tells sides oldStop newStop oldStop newStop []
  /-- The next old line is taken away. -/
  | removed {old new : Nat} {line : String} {rest : List Row} :
      sides.old[old]? = some line → Tells sides oldStop newStop (old + 1) new rest →
      Tells sides oldStop newStop old new (.removed (old + 1) line :: rest)
  /-- The next new line is added. -/
  | added {old new : Nat} {line : String} {rest : List Row} :
      sides.new[new]? = some line → Tells sides oldStop newStop old (new + 1) rest →
      Tells sides oldStop newStop old new (.added (new + 1) line :: rest)
  /-- The next line is the same on both sides. -/
  | kept {old new : Nat} {line : String} {rest : List Row} :
      sides.old[old]? = some line → sides.new[new]? = some line →
      Tells sides oldStop newStop (old + 1) (new + 1) rest →
      Tells sides oldStop newStop old new (.kept (new + 1) line :: rest)

/-- Whether rows are a listing of what changes between two texts from some place of both on. What is
told in no hunk is the same on both sides. -/
inductive IsListing (sides : Sides) : Nat → Nat → List Row → Prop
  /-- At the end nothing is left to list. -/
  | ended : IsListing sides sides.old.size sides.new.size []
  /-- The next line is the same on both sides, and is not shown. -/
  | unshown {old new : Nat} {line : String} {rows : List Row} :
      sides.old[old]? = some line → sides.new[new]? = some line →
      IsListing sides (old + 1) (new + 1) rows → IsListing sides old new rows
  /-- A hunk tells the next lines, and says in its header which they are. -/
  | hunk {old new oldStop newStop : Nat} {body rest : List Row} :
      Tells sides oldStop newStop old new body → IsListing sides oldStop newStop rest →
      IsListing sides old new (.start ⟨old, oldStop, new, newStop⟩ :: (body ++ rest))

section Telling

variable {sides : Sides} {oldStop newStop old new : Nat} {rows : List Row}

/-- What tells the lines up to a place, and what tells the lines from there, tell them all. -/
theorem Tells.append {oldNext newNext : Nat} {others : List Row}
    (tells : Tells sides oldNext newNext old new rows)
    (later : Tells sides oldStop newStop oldNext newNext others) :
    Tells sides oldStop newStop old new (rows ++ others) := by
  induction tells with
  | ended => exact later
  | removed line _ ih => exact .removed line ih
  | added line _ ih => exact .added line ih
  | kept line same _ ih => exact .kept line same ih

/-- Rows of one kind tell the lines from a start to a stop one by one. -/
theorem rowsOf_cons (row : Nat → String → Row) (number : Nat) {lines : Array String}
    {start stop : Nat} (before : start < stop) (within : stop ≤ lines.size) :
    ∃ line, lines[start]? = some line ∧
      rowsOf row lines start stop number =
        row number line :: rowsOf row lines (start + 1) stop (number + 1) := by
  have inside : start < lines.size := Nat.lt_of_lt_of_le before within
  refine ⟨lines[start], Array.getElem?_eq_getElem inside, ?_⟩
  have first : linesIn lines start stop = lines[start] :: linesIn lines (start + 1) stop := by
    simp only [linesIn, Array.toList_extract, List.extract_eq_take_drop]
    rw [List.drop_eq_getElem_cons (by simpa using inside),
      show stop - start = stop - (start + 1) + 1 by omega, List.take_succ_cons]
    simp
  rw [rowsOf, first]
  rfl

/-- No rows tell the lines from a stop on. -/
theorem rowsOf_self (row : Nat → String → Row) (lines : Array String) (stop number : Nat) :
    rowsOf row lines stop stop number = [] := by
  simp [rowsOf, linesIn]

end Telling

/-- What each row of a kind adds to the rows after it holds of rows for the lines from a start to a
stop, in front of rows of which it holds at the stop. -/
theorem rowsOf_induction (row : Nat → String → Row) (number : Nat) (rows : List Row)
    {lines : Array String} {start stop : Nat} (told : Nat → List Row → Prop)
    (before : start ≤ stop) (within : stop ≤ lines.size)
    (step : ∀ further line rest, start + further < stop → lines[start + further]? = some line →
      told (further + 1) rest → told further (row (number + further) line :: rest))
    (last : told (stop - start) rows) :
    told 0 (rowsOf row lines start stop number ++ rows) := by
  obtain ⟨count, rfl⟩ := Nat.exists_eq_add_of_le before
  induction count generalizing start number told with
  | zero => simpa [rowsOf_self] using last
  | succ count ih =>
    obtain ⟨line, here, same⟩ := rowsOf_cons row number
      (show start < start + (count + 1) by omega) within
    have stop : start + 1 + count = start + (count + 1) := by omega
    have inOrder : start + 1 ≤ start + 1 + count := by omega
    have later := ih (number + 1) (fun further => told (further + 1)) inOrder (by omega)
      (fun further line rest inside found after => ?_) ?_
    · rw [same]
      rw [stop] at later
      exact step 0 line _ (by omega) here later
    · rw [Nat.add_assoc number, Nat.add_comm 1 further]
      refine step (further + 1) line rest (by omega) ?_ after
      rwa [Nat.add_comm further 1, ← Nat.add_assoc]
    · rwa [show start + (count + 1) - start = start + 1 + count - (start + 1) + 1 by omega] at last

/-! ## Stretches -/

/-- Whether a stretch is one of two texts: its lines are lines of theirs, and are the same on both
sides if it says so. -/
structure IsStretch (sides : Sides) (stretch : Stretch) : Prop where
  /-- Its old lines are in order. -/
  old : stretch.region.oldStart ≤ stretch.region.oldStop
  /-- Its old lines are old lines. -/
  oldInside : stretch.region.oldStop ≤ sides.old.size
  /-- Its new lines are in order. -/
  new : stretch.region.newStart ≤ stretch.region.newStop
  /-- Its new lines are new lines. -/
  newInside : stretch.region.newStop ≤ sides.new.size
  /-- Equal lines are as many on both sides. -/
  size : stretch.change = .same → stretch.region.oldStop - stretch.region.oldStart =
    stretch.region.newStop - stretch.region.newStart
  /-- Equal lines are equal. -/
  same : stretch.change = .same → ∀ further,
    further < stretch.region.oldStop - stretch.region.oldStart →
    sides.old[stretch.region.oldStart + further]? = sides.new[stretch.region.newStart + further]?

section Stretches

variable {sides : Sides} {stretch : Stretch}

/-- The rows of a stretch tell its lines. -/
theorem IsStretch.tells (isStretch : IsStretch sides stretch) :
    Tells sides stretch.region.oldStop stretch.region.newStop stretch.region.oldStart
      stretch.region.newStart (stretchRows sides stretch) := by
  obtain ⟨old, oldInside, new, newInside, size, same⟩ := isStretch
  obtain ⟨change, oldStart, oldStop, newStart, newStop⟩ := stretch
  simp only at old oldInside new newInside size same ⊢
  cases change with
  | same =>
    have told := rowsOf_induction .kept (newStart + 1) []
      (fun further => Tells sides oldStop newStop (oldStart + further) (newStart + further))
      old oldInside (fun further line rest inside found later => ?_) ?_
    · simpa [stretchRows] using told
    · have other := same rfl further (by omega)
      rw [Nat.add_right_comm]
      exact .kept found (other ▸ found) later
    · have sizes := size rfl
      rw [show newStart + (oldStop - oldStart) = newStop by omega, Nat.add_sub_cancel' old]
      exact .ended
  | replaced =>
    have added := rowsOf_induction .added (newStart + 1) []
      (fun further => Tells sides oldStop newStop oldStop (newStart + further))
      new newInside (fun further line rest inside found later => ?_) ?_
    · have removed := rowsOf_induction .removed (oldStart + 1) _
        (fun further => Tells sides oldStop newStop (oldStart + further) newStart)
        old oldInside (fun further line rest inside found later => ?_)
        (by rw [Nat.add_sub_cancel' old]; exact added)
      · simpa [stretchRows] using removed
      · rw [Nat.add_right_comm]
        exact .removed found later
    · rw [Nat.add_right_comm]
      exact .added found later
    · rw [Nat.add_sub_cancel' new]
      exact .ended

/-- Equal lines of a stretch need not be shown in front of a listing. -/
theorem IsStretch.unshown (isStretch : IsStretch sides stretch) (same : stretch.change = .same)
    {first last : Nat} (before : first ≤ last)
    (within : last ≤ stretch.region.oldStop - stretch.region.oldStart) {rows : List Row}
    (listing : IsListing sides (stretch.region.oldStart + last) (stretch.region.newStart + last)
      rows) :
    IsListing sides (stretch.region.oldStart + first) (stretch.region.newStart + first) rows := by
  obtain ⟨count, rfl⟩ := Nat.exists_eq_add_of_le before
  induction count generalizing first with
  | zero => exact listing
  | succ count ih =>
    have oldInside := isStretch.oldInside
    have inside : stretch.region.oldStart + first < sides.old.size := by omega
    have line := Array.getElem?_eq_getElem inside
    refine .unshown line ((isStretch.same same first (by omega)).symm.trans line) ?_
    rw [Nat.add_assoc, Nat.add_assoc]
    refine ih (by omega) (by omega) ?_
    rwa [show first + 1 + count = first + (count + 1) by omega]

/-- A listing from the end of a stretch of equal lines on is one from its start on. -/
theorem IsStretch.unshown_all (isStretch : IsStretch sides stretch) (same : stretch.change = .same)
    {rows : List Row}
    (listing : IsListing sides stretch.region.oldStop stretch.region.newStop rows) :
    IsListing sides stretch.region.oldStart stretch.region.newStart rows := by
  refine isStretch.unshown same (Nat.zero_le _) (Nat.le_refl _) ?_
  rwa [Nat.add_sub_cancel' isStretch.old, isStretch.size same, Nat.add_sub_cancel' isStretch.new]

/-- A part of a stretch of equal lines is one. -/
theorem IsStretch.part (isStretch : IsStretch sides stretch) (same : stretch.change = .same)
    {first last : Nat} (before : first ≤ last)
    (within : last ≤ stretch.region.oldStop - stretch.region.oldStart) :
    IsStretch sides ⟨.same, ⟨stretch.region.oldStart + first, stretch.region.oldStart + last,
      stretch.region.newStart + first, stretch.region.newStart + last⟩⟩ := by
  have size := isStretch.size same
  have equal := isStretch.same same
  obtain ⟨old, oldInside, new, newInside, -, -⟩ := isStretch
  refine ⟨by simp only; omega, by simp only; omega, by simp only; omega, by simp only; omega,
    fun _ => by simp only; omega, fun _ further inside => ?_⟩
  simp only at inside ⊢
  rw [Nat.add_assoc, Nat.add_assoc]
  exact equal (first + further) (by omega)

/-- The beginning of a stretch of equal lines has so many of them at most. -/
theorem IsStretch.beginning_eq (isStretch : IsStretch sides stretch)
    (same : stretch.change = .same) {shown : Nat}
    (isShown : shown = min (stretch.region.oldStop - stretch.region.oldStart) contextLines) :
    stretch.beginning = ⟨.same, ⟨stretch.region.oldStart + 0, stretch.region.oldStart + shown,
      stretch.region.newStart + 0, stretch.region.newStart + shown⟩⟩ := by
  have size := isStretch.size same
  have old := isStretch.old
  have new := isStretch.new
  simp only [Stretch.beginning, same, Stretch.mk.injEq, Region.mk.injEq, true_and]
  omega

/-- The ending of a stretch of equal lines leaves out all lines but so many. -/
theorem IsStretch.ending_eq (isStretch : IsStretch sides stretch) (same : stretch.change = .same)
    {left : Nat}
    (isLeft : left = stretch.region.oldStop - stretch.region.oldStart - contextLines) :
    stretch.ending = ⟨.same, ⟨stretch.region.oldStart + left,
      stretch.region.oldStart + (stretch.region.oldStop - stretch.region.oldStart),
      stretch.region.newStart + left,
      stretch.region.newStart + (stretch.region.oldStop - stretch.region.oldStart)⟩⟩ := by
  have size := isStretch.size same
  have old := isStretch.old
  have new := isStretch.new
  simp only [Stretch.ending, same, Stretch.mk.injEq, Region.mk.injEq, true_and]
  omega

/-- The beginning of a stretch of equal lines is one, and a listing from the end of the stretch on
is one from the end of its beginning on. -/
theorem IsStretch.beginning (isStretch : IsStretch sides stretch) (same : stretch.change = .same) :
    IsStretch sides stretch.beginning ∧ ∀ rows,
      IsListing sides stretch.region.oldStop stretch.region.newStop rows →
      IsListing sides stretch.beginning.region.oldStop stretch.beginning.region.newStop rows := by
  rw [isStretch.beginning_eq same rfl]
  refine ⟨isStretch.part same (Nat.zero_le _) (by omega), fun rows listing => ?_⟩
  refine isStretch.unshown same (Nat.min_le_left _ _) (Nat.le_refl _) ?_
  rwa [Nat.add_sub_cancel' isStretch.old, isStretch.size same,
    Nat.add_sub_cancel' isStretch.new]

/-- The ending of a stretch of equal lines is one, and a listing from its start on is one from the
start of the stretch on. -/
theorem IsStretch.ending (isStretch : IsStretch sides stretch) (same : stretch.change = .same) :
    IsStretch sides stretch.ending ∧ ∀ rows,
      IsListing sides stretch.ending.region.oldStart stretch.ending.region.newStart rows →
      IsListing sides stretch.region.oldStart stretch.region.newStart rows := by
  rw [isStretch.ending_eq same rfl]
  exact ⟨isStretch.part same (by omega) (Nat.le_refl _), fun rows listing =>
    isStretch.unshown same (Nat.zero_le _) (by omega) listing⟩

/-- Of a stretch that parts hunks, what lies between its beginning and its ending need not be
shown. -/
theorem IsStretch.between (isStretch : IsStretch sides stretch) (parts : stretch.parts = true)
    {rows : List Row}
    (listing : IsListing sides stretch.ending.region.oldStart stretch.ending.region.newStart rows) :
    IsListing sides stretch.beginning.region.oldStop stretch.beginning.region.newStop rows := by
  simp only [Stretch.parts, Bool.and_eq_true, decide_eq_true_iff] at parts
  obtain ⟨same, long⟩ := parts
  rw [isStretch.ending_eq same rfl] at listing
  rw [isStretch.beginning_eq same rfl]
  exact isStretch.unshown same (by omega) (by omega) listing

end Stretches

/-! ## Stretches one after the other -/

/-- Whether stretches of two texts follow each other from one place of both to another. -/
def Leads (sides : Sides) (oldStop newStop : Nat) : Nat → Nat → List Stretch → Prop
  | old, new, [] => old = oldStop ∧ new = newStop
  | old, new, stretch :: rest => stretch.region.oldStart = old ∧ stretch.region.newStart = new ∧
      IsStretch sides stretch ∧
      Leads sides oldStop newStop stretch.region.oldStop stretch.region.newStop rest

section Following

variable {sides : Sides} {oldStop newStop old new : Nat} {stretches : List Stretch}

/-- Stretches up to a place are followed by those from there on. -/
theorem Leads.append {oldNext newNext : Nat} {others : List Stretch}
    (leads : Leads sides oldNext newNext old new stretches)
    (later : Leads sides oldStop newStop oldNext newNext others) :
    Leads sides oldStop newStop old new (stretches ++ others) := by
  induction stretches generalizing old new with
  | nil =>
    obtain ⟨rfl, rfl⟩ := leads
    exact later
  | cons stretch rest ih =>
    obtain ⟨rfl, rfl, isStretch, leads⟩ := leads
    exact ⟨rfl, rfl, isStretch, ih leads⟩

/-- The rows of stretches that follow each other tell their lines. -/
theorem Leads.tells (leads : Leads sides oldStop newStop old new stretches) :
    Tells sides oldStop newStop old new (stretches.flatMap (stretchRows sides)) := by
  induction stretches generalizing old new with
  | nil =>
    obtain ⟨rfl, rfl⟩ := leads
    exact .ended
  | cons stretch rest ih =>
    obtain ⟨rfl, rfl, isStretch, leads⟩ := leads
    exact isStretch.tells.append (ih leads)

/-- The stretches between and in blocks follow each other up to the ends of the texts. -/
theorem leads_stretchesFrom {blocks : List Block}
    (order : Sides.InOrder sides ⟨old, sides.old.size, new, sides.new.size⟩ blocks) :
    Leads sides sides.old.size sides.new.size old new (stretchesFrom sides old new blocks) := by
  induction blocks generalizing old new with
  | nil =>
    obtain ⟨oldInside, newInside⟩ := order
    simp only at oldInside newInside
    rw [stretchesFrom]
    split
    · exact ⟨rfl, rfl, ⟨oldInside, Nat.le_refl _, newInside, Nat.le_refl _, by simp, by simp⟩, rfl, rfl⟩
    · exact ⟨by omega, by omega⟩
  | cons block rest ih =>
    obtain ⟨⟨oldStart, oldInside, newStart, newInside, same⟩, others⟩ := order
    simp only at oldStart oldInside newStart newInside
    have common : Leads sides sides.old.size sides.new.size block.old block.new
        (⟨.same, ⟨block.old, block.old + block.size, block.new, block.new + block.size⟩⟩ ::
          stretchesFrom sides (block.old + block.size) (block.new + block.size) rest) := by
      refine ⟨rfl, rfl, ⟨Nat.le_add_right _ _, oldInside, Nat.le_add_right _ _, newInside, ?_, ?_⟩,
        ih others⟩
      · simp
      · simpa using same
    rw [stretchesFrom]
    split
    · exact ⟨rfl, rfl, ⟨oldStart, by simp only; omega, newStart, by simp only; omega, by simp, by simp⟩,
        common⟩
    · obtain rfl : block.old = old := by omega
      obtain rfl : block.new = new := by omega
      exact common

/-- The stretches of two texts follow each other from the first lines to the ends. -/
theorem leads_stretches (sides : Sides) :
    Leads sides sides.old.size sides.new.size 0 0 (LineDiff.stretches sides) :=
  leads_stretchesFrom sides.inOrder_blocks

end Following

/-! ## Hunks -/

section Cutting

variable {sides : Sides} {oldStop newStop old new : Nat} {stretches : List Stretch}

/-- What is cut off the first stretch is the same on both sides. -/
theorem Leads.cutFirst (leads : Leads sides oldStop newStop old new stretches) :
    ∃ oldNext newNext, Leads sides oldStop newStop oldNext newNext (LineDiff.cutFirst stretches) ∧
      ∀ rows, IsListing sides oldNext newNext rows → IsListing sides old new rows := by
  cases stretches with
  | nil => exact ⟨old, new, leads, fun _ => id⟩
  | cons first rest =>
    rw [LineDiff.cutFirst]
    split
    · rename_i same
      obtain ⟨rfl, rfl, isStretch, later⟩ := leads
      obtain ⟨isEnding, unshown⟩ := isStretch.ending same
      exact ⟨_, _, ⟨rfl, rfl, isEnding, later⟩, unshown⟩
    · exact ⟨old, new, leads, fun _ => id⟩

/-- What is cut off the last stretch is the same on both sides. -/
theorem Leads.cutLast (leads : Leads sides oldStop newStop old new stretches) :
    ∃ oldEnd newEnd, Leads sides oldEnd newEnd old new (LineDiff.cutLast stretches) ∧
      ∀ rows, IsListing sides oldStop newStop rows → IsListing sides oldEnd newEnd rows := by
  fun_induction LineDiff.cutLast stretches generalizing old new with
  | case1 => exact ⟨oldStop, newStop, leads, fun _ => id⟩
  | case2 last =>
    split
    · rename_i same
      obtain ⟨rfl, rfl, isStretch, rfl, rfl⟩ := leads
      obtain ⟨isBeginning, unshown⟩ := isStretch.beginning same
      exact ⟨_, _, ⟨rfl, rfl, isBeginning, rfl, rfl⟩, unshown⟩
    · exact ⟨oldStop, newStop, leads, fun _ => id⟩
  | case3 first rest more ih =>
    obtain ⟨rfl, rfl, isStretch, later⟩ := leads
    obtain ⟨oldEnd, newEnd, cut, unshown⟩ := ih later
    exact ⟨oldEnd, newEnd, ⟨rfl, rfl, isStretch, cut⟩, unshown⟩

/-- Whether a hunk tells a change. -/
def changes (hunk : List Stretch) : Bool := hunk.any fun stretch => stretch.change ≠ .same

/-- Stretches that tell no change need not be shown. -/
theorem Leads.unshown (leads : Leads sides oldStop newStop old new stretches)
    (unchanged : changes stretches = false) {rows : List Row}
    (listing : IsListing sides oldStop newStop rows) : IsListing sides old new rows := by
  induction stretches generalizing old new with
  | nil =>
    obtain ⟨rfl, rfl⟩ := leads
    exact listing
  | cons stretch rest ih =>
    obtain ⟨rfl, rfl, isStretch, later⟩ := leads
    rw [changes, List.any_cons, Bool.or_eq_false_iff] at unchanged
    obtain ⟨same, others⟩ := unchanged
    exact isStretch.unshown_all (by simpa using same) (ih later others)

/-- Stretches that follow each other end where the last of them ends. -/
theorem Leads.stop_eq (leads : Leads sides oldStop newStop old new stretches)
    (filled : stretches ≠ []) :
    (stretches.getLast?.getD default).region.oldStop = oldStop ∧
      (stretches.getLast?.getD default).region.newStop = newStop := by
  induction stretches generalizing old new with
  | nil => exact absurd rfl filled
  | cons stretch rest ih =>
    obtain ⟨-, -, -, later⟩ := leads
    cases rest with
    | nil => exact later
    | cons next rest => exact ih later (by simp)

/-- A hunk shows its lines from the first to the last. -/
theorem Leads.hunkRegion_eq (leads : Leads sides oldStop newStop old new stretches)
    (filled : stretches ≠ []) : hunkRegion stretches = ⟨old, oldStop, new, newStop⟩ := by
  obtain ⟨oldEnds, newEnds⟩ := leads.stop_eq filled
  cases stretches with
  | nil => exact absurd rfl filled
  | cons first rest =>
    obtain ⟨rfl, rfl, -, -⟩ := leads
    simp only [hunkRegion, oldEnds, newEnds]
    rfl

/-- A hunk is listed in front of what is listed after it, and is left out if it tells no change. -/
theorem Leads.listing (leads : Leads sides oldStop newStop old new stretches)
    {rows : List Row} (listing : IsListing sides oldStop newStop rows) :
    IsListing sides old new
      (([stretches].filter changes).flatMap (hunkRows sides) ++ rows) := by
  cases changed : changes stretches with
  | false =>
    simp only [List.filter_cons, changed]
    exact leads.unshown changed listing
  | true =>
    have filled : stretches ≠ [] := by
      rintro rfl
      cases changed
    simp only [List.filter_cons, changed, if_true, List.filter_nil, List.flatMap_cons,
      List.flatMap_nil, List.append_nil, hunkRows, leads.hunkRegion_eq filled, List.cons_append]
    exact .hunk leads.tells listing

/-- The hunks of stretches are listed, with those of a hunk that was begun. -/
theorem listing_hunksFrom {begun : List Stretch} {oldNext newNext : Nat}
    (before : Leads sides oldNext newNext old new begun)
    (after : Leads sides oldStop newStop oldNext newNext stretches)
    (last : IsListing sides oldStop newStop []) :
    IsListing sides old new (((hunksFrom begun stretches).filter changes).flatMap
      (hunkRows sides)) := by
  have hunk_cons : ∀ (hunk : List Stretch) (others : List (List Stretch)),
      ((hunk :: others).filter changes).flatMap (hunkRows sides) =
        ([hunk].filter changes).flatMap (hunkRows sides) ++
          (others.filter changes).flatMap (hunkRows sides) := by
    intro hunk others
    rw [← List.flatMap_append, ← List.filter_append]
    rfl
  induction stretches generalizing begun old new oldNext newNext with
  | nil =>
    obtain ⟨rfl, rfl⟩ := after
    have listed := before.listing last
    rwa [List.append_nil] at listed
  | cons stretch rest ih =>
    obtain ⟨rfl, rfl, isStretch, later⟩ := after
    rw [hunksFrom]
    split
    · rename_i parts
      have same := Stretch.change_of_parts parts
      have beginning : Leads sides stretch.beginning.region.oldStop
          stretch.beginning.region.newStop stretch.region.oldStart stretch.region.newStart
          [stretch.beginning] := ⟨rfl, rfl, (isStretch.beginning same).1, rfl, rfl⟩
      have ending : Leads sides stretch.region.oldStop stretch.region.newStop
          stretch.ending.region.oldStart stretch.ending.region.newStart [stretch.ending] :=
        ⟨rfl, rfl, (isStretch.ending same).1, rfl, rfl⟩
      rw [hunk_cons]
      exact (before.append beginning).listing (isStretch.between parts (ih ending later))
    · refine ih (before.append ?_) later
      exact ⟨rfl, rfl, isStretch, rfl, rfl⟩

end Cutting

/-- The rows of the diff of two texts are a listing of what changes between them. -/
theorem isListing_diffRows (sides : Sides) : IsListing sides 0 0 (diffRows sides) := by
  obtain ⟨oldNext, newNext, cutFirst, unshownFirst⟩ := (leads_stretches sides).cutFirst
  obtain ⟨oldEnd, newEnd, cut, unshownLast⟩ := cutFirst.cutLast
  have nothing : Leads sides oldNext newNext oldNext newNext [] := ⟨rfl, rfl⟩
  exact unshownFirst _ (listing_hunksFrom nothing cut (unshownLast _ .ended))

/-! ## What a listing says -/

/-- The number that a row has in the old text, if the line is taken away. -/
def Row.oldNumber? : Row → Option Nat
  | .removed number _ => some number
  | _ => none

/-- The number that a row has in the new text, if the line is in it. -/
def Row.newNumber? : Row → Option Nat
  | .added number _ | .kept number _ => some number
  | _ => none

/-- Whether a row tells the line that has its number. -/
def Row.IsTrue (sides : Sides) : Row → Prop
  | .start _ => True
  | .removed number line => 0 < number ∧ sides.old[number - 1]? = some line
  | .added number line | .kept number line => 0 < number ∧ sides.new[number - 1]? = some line

/-- Whether numbers ascend from above one number up to another. -/
structure Ascends (first last : Nat) (numbers : List Nat) : Prop where
  /-- They ascend. -/
  ascending : numbers.Pairwise (· < ·)
  /-- They are between the two. -/
  between : ∀ number ∈ numbers, first < number ∧ number ≤ last

namespace Ascends

variable {first middle last : Nat} {numbers others : List Nat}

/-- Numbers that ascend from above a number ascend from above a smaller one. -/
theorem from_le (ascends : Ascends middle last numbers) (before : first ≤ middle) :
    Ascends first last numbers :=
  ⟨ascends.ascending, fun number member =>
    ⟨Nat.lt_of_le_of_lt before (ascends.between number member).1,
      (ascends.between number member).2⟩⟩

/-- The number right above can stand in front. -/
theorem cons (ascends : Ascends (first + 1) last numbers) (inside : first < last) :
    Ascends first last ((first + 1) :: numbers) where
  ascending := List.pairwise_cons.2
    ⟨fun number member => (ascends.between number member).1, ascends.ascending⟩
  between := List.forall_mem_cons.2
    ⟨⟨Nat.lt_succ_self first, inside⟩, (ascends.from_le (Nat.le_succ first)).between⟩

/-- Numbers up to one and numbers from above it ascend together. -/
theorem append (ascends : Ascends first middle numbers) (later : Ascends middle last others)
    (before : first ≤ middle) (after : middle ≤ last) : Ascends first last (numbers ++ others) where
  ascending := List.pairwise_append.2 ⟨ascends.ascending, later.ascending,
    fun number member other listed => Nat.lt_of_le_of_lt (ascends.between number member).2
      (later.between other listed).1⟩
  between number member := by
    rcases List.mem_append.1 member with here | there
    · exact ⟨(ascends.between number here).1, Nat.le_trans (ascends.between number here).2 after⟩
    · exact (later.from_le before).between number there

end Ascends

section Numbers

variable {sides : Sides} {oldStop newStop old new : Nat} {rows : List Row}

/-- Rows tell lines up to a place that is not before theirs. -/
theorem Tells.le (tells : Tells sides oldStop newStop old new rows) :
    old ≤ oldStop ∧ new ≤ newStop := by
  induction tells with
  | ended => exact ⟨Nat.le_refl _, Nat.le_refl _⟩
  | removed _ _ ih => exact ⟨Nat.le_of_succ_le ih.1, ih.2⟩
  | added _ _ ih => exact ⟨ih.1, Nat.le_of_succ_le ih.2⟩
  | kept _ _ _ ih => exact ⟨Nat.le_of_succ_le ih.1, Nat.le_of_succ_le ih.2⟩

/-- The numbers of the rows of a hunk ascend on both sides, and each row tells its line. -/
theorem Tells.numbers (tells : Tells sides oldStop newStop old new rows) :
    Ascends old oldStop (rows.filterMap Row.oldNumber?) ∧
      Ascends new newStop (rows.filterMap Row.newNumber?) ∧ ∀ row ∈ rows, row.IsTrue sides := by
  induction tells with
  | ended => exact ⟨⟨.nil, by simp⟩, ⟨.nil, by simp⟩, by simp⟩
  | removed line later ih =>
    obtain ⟨olds, news, true_⟩ := ih
    exact ⟨olds.cons later.le.1, news,
      List.forall_mem_cons.2 ⟨⟨Nat.succ_pos _, line⟩, true_⟩⟩
  | added line later ih =>
    obtain ⟨olds, news, true_⟩ := ih
    exact ⟨olds, news.cons later.le.2,
      List.forall_mem_cons.2 ⟨⟨Nat.succ_pos _, line⟩, true_⟩⟩
  | kept _ line later ih =>
    obtain ⟨olds, news, true_⟩ := ih
    exact ⟨olds.from_le (Nat.le_succ _), news.cons later.le.2,
      List.forall_mem_cons.2 ⟨⟨Nat.succ_pos _, line⟩, true_⟩⟩

/-- A listing goes from places inside the texts to their ends. -/
theorem IsListing.le (listing : IsListing sides old new rows) :
    old ≤ sides.old.size ∧ new ≤ sides.new.size := by
  induction listing with
  | ended => exact ⟨Nat.le_refl _, Nat.le_refl _⟩
  | unshown _ _ _ ih => exact ⟨Nat.le_of_succ_le ih.1, Nat.le_of_succ_le ih.2⟩
  | hunk tells _ ih => exact ⟨Nat.le_trans tells.le.1 ih.1, Nat.le_trans tells.le.2 ih.2⟩

/-- The numbers of a listing ascend on both sides, so no line is told twice, and each row tells the
line that has its number. -/
theorem IsListing.numbers (listing : IsListing sides old new rows) :
    Ascends old sides.old.size (rows.filterMap Row.oldNumber?) ∧
      Ascends new sides.new.size (rows.filterMap Row.newNumber?) ∧
      ∀ row ∈ rows, row.IsTrue sides := by
  induction listing with
  | ended => exact ⟨⟨.nil, by simp⟩, ⟨.nil, by simp⟩, by simp⟩
  | unshown _ _ _ ih =>
    obtain ⟨olds, news, true_⟩ := ih
    exact ⟨olds.from_le (Nat.le_succ _), news.from_le (Nat.le_succ _), true_⟩
  | hunk tells later ih =>
    obtain ⟨olds, news, true_⟩ := ih
    obtain ⟨bodyOlds, bodyNews, bodyTrue⟩ := tells.numbers
    refine ⟨?_, ?_, List.forall_mem_cons.2 ⟨trivial, List.forall_mem_append.2 ⟨bodyTrue, true_⟩⟩⟩
    · rw [List.filterMap_cons, List.filterMap_append]
      exact bodyOlds.append olds tells.le.1 later.le.1
    · rw [List.filterMap_cons, List.filterMap_append]
      exact bodyNews.append news tells.le.2 later.le.2

end Numbers

end LintBench.LineDiff
