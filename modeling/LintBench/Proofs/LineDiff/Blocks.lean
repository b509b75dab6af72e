import LintBench.LineDiff.Blocks

/-!
# The blocks of two texts

The blocks that are found are blocks of equal lines, one after the other on both
sides. Of two equal texts the one block is all of the text, however often its
lines occur in it.
-/

namespace LintBench.LineDiff

/-- Whether a block of a region has the same lines on both sides. -/
structure IsCommon (sides : Sides) (region : Region) (block : Block) : Prop where
  /-- It does not start before the region's old lines. -/
  oldStart : region.oldStart ≤ block.old
  /-- It does not go on after them. -/
  oldStop : block.old + block.size ≤ region.oldStop
  /-- It does not start before the region's new lines. -/
  newStart : region.newStart ≤ block.new
  /-- It does not go on after them. -/
  newStop : block.new + block.size ≤ region.newStop
  /-- The lines are the same. -/
  same : ∀ further < block.size,
    sides.old[block.old + further]? = sides.new[block.new + further]?

namespace IsCommon

variable {sides : Sides} {region : Region} {block : Block} (common : IsCommon sides region block)
include common

/-- A block can take in an equal line after it. -/
theorem next (old : block.old + block.size < region.oldStop)
    (new : block.new + block.size < region.newStop)
    (line : sides.old[block.old + block.size]? = sides.new[block.new + block.size]?) :
    IsCommon sides region { block with size := block.size + 1 } where
  oldStart := common.oldStart
  oldStop := old
  newStart := common.newStart
  newStop := new
  same further inside := by
    rcases Nat.lt_succ_iff_lt_or_eq.1 inside with before | last
    · exact common.same further before
    · subst last
      exact line

/-- A block can take in an equal line before it. -/
theorem previous (old : region.oldStart < block.old) (new : region.newStart < block.new)
    (line : sides.old[block.old - 1]? = sides.new[block.new - 1]?) :
    IsCommon sides region ⟨block.old - 1, block.new - 1, block.size + 1⟩ where
  oldStart := Nat.le_pred_of_lt old
  oldStop := by
    have stop := common.oldStop
    simp only
    omega
  newStart := Nat.le_pred_of_lt new
  newStop := by
    have stop := common.newStop
    simp only
    omega
  same further inside := by
    rcases further with _ | further
    · exact line
    · have later := common.same further (Nat.lt_of_succ_lt_succ inside)
      rwa [show block.old - 1 + (further + 1) = block.old + further by omega,
        show block.new - 1 + (further + 1) = block.new + further by omega]

/-- A block of a region is one of a region around it. -/
theorem widen {around : Region} (oldStart : around.oldStart ≤ region.oldStart)
    (oldStop : region.oldStop ≤ around.oldStop) (newStart : around.newStart ≤ region.newStart)
    (newStop : region.newStop ≤ around.newStop) : IsCommon sides around block where
  oldStart := Nat.le_trans oldStart common.oldStart
  oldStop := Nat.le_trans common.oldStop oldStop
  newStart := Nat.le_trans newStart common.newStart
  newStop := Nat.le_trans common.newStop newStop
  same := common.same

end IsCommon

/-! ## Runs of common lines -/

/-- How long the run is that ends right before a new line. -/
def sizeBefore (runs : List (Nat × Nat)) (place : Nat) : Nat :=
  if place = 0 then 0 else (runs.lookup (place - 1)).getD 0

/-- Before a new line ends the run that was found there, or none. -/
theorem sizeBefore_cases (runs : List (Nat × Nat)) (place : Nat) :
    (sizeBefore runs place = 0 ∧ ∀ run ∈ runs, run.1 + 1 ≠ place) ∨
      ∃ run ∈ runs, run.1 + 1 = place ∧ sizeBefore runs place = run.2 := by
  cases place with
  | zero => exact .inl ⟨rfl, fun run _ => Nat.succ_ne_zero run.1⟩
  | succ place =>
    rw [sizeBefore, if_neg (Nat.succ_ne_zero place), Nat.add_sub_cancel]
    cases found : runs.lookup place with
    | none =>
      refine .inl ⟨rfl, fun run member same => ?_⟩
      have passed := List.lookup_eq_none_iff.1 found run member
      simp [Nat.succ.inj same] at passed
    | some size =>
      obtain ⟨front, rest, split, -⟩ := List.lookup_eq_some_iff.1 found
      exact .inr ⟨(place, size), by simp [split], rfl, rfl⟩

/-- The block of a run that ends at an old and a new line. -/
def runBlock (oldLine place size : Nat) : Block := ⟨oldLine + 1 - size, place + 1 - size, size⟩

namespace Sides

section Extending

variable (region : Region) (oldLine : Nat) {places : List Nat} {runs : List (Nat × Nat)}
  {best : Block}

/-- What holds of each run that goes on, and of the best block with each of them, holds after an old
line. -/
theorem extendRuns_spec (IsRun : Nat → Nat → Prop) (IsBest : Block → Prop)
    (fresh : ∀ place ∈ places, region.newStart ≤ place → place < region.newStop →
      IsRun place (sizeBefore runs place + 1))
    (better : ∀ place size, IsRun place size → IsBest (runBlock oldLine place size))
    (start : IsBest best) :
    (∀ run ∈ (extendRuns region oldLine places runs best).1, IsRun run.1 run.2) ∧
      IsBest (extendRuns region oldLine places runs best).2 := by
  induction places generalizing best with
  | nil => exact ⟨by simp [extendRuns], start⟩
  | cons place rest ih =>
    obtain ⟨here, later⟩ := List.forall_mem_cons.1 fresh
    rw [extendRuns]
    split
    · exact ih later start
    · rename_i reached
      split
      · exact ⟨by simp, start⟩
      · rename_i inside
        have run := here (Nat.le_of_not_lt reached) (Nat.lt_of_not_le inside)
        rw [← sizeBefore]
        have best : IsBest (if best.size < sizeBefore runs place + 1 then
            runBlock oldLine place (sizeBefore runs place + 1) else best) := by
          split
          · exact better place _ run
          · exact start
        obtain ⟨others, last⟩ := ih later best
        exact ⟨List.forall_mem_cons.2 ⟨run, others⟩, last⟩

end Extending

variable (sides : Sides)

/-- The places of an old line hold that line. -/
theorem eq_of_mem_places {oldLine place : Nat}
    (member : place ∈ sides.places[oldLine]?.getD []) :
    sides.old[oldLine]? = sides.new[place]? ∧ place < sides.new.size := by
  rw [places, Array.getElem?_map] at member
  cases line : sides.old[oldLine]? with
  | none => simp [line] at member
  | some text =>
    simp only [line, Option.map_some, Option.getD_some, placesOf] at member
    split at member
    · simp at member
    · obtain ⟨inside, found⟩ := List.mem_filter.1 member
      exact ⟨(of_decide_eq_true found).symm, List.mem_range.1 inside⟩

/-- The runs and the best block after some old lines of a region. -/
def runsAfter (places : Array (List Nat)) (region : Region) (count : Nat) :
    List (Nat × Nat) × Block :=
  ((List.range count).map (region.oldStart + ·)).foldl
    (fun (runs, best) line => extendRuns region line (places[line]?.getD []) runs best)
    ([], ⟨region.oldStart, region.newStart, 0⟩)

/-- The runs after one line more come from those before it. -/
theorem runsAfter_succ (places : Array (List Nat)) (region : Region) (count : Nat) :
    runsAfter places region (count + 1) =
      extendRuns region (region.oldStart + count) (places[region.oldStart + count]?.getD [])
        (runsAfter places region count).1 (runsAfter places region count).2 := by
  rw [runsAfter, List.range_succ, List.map_append, List.foldl_append]
  rfl

/-- The longest run is the best block after all lines. -/
theorem longestRun_eq (places : Array (List Nat)) (region : Region) :
    longestRun places region =
      (runsAfter places region (region.oldStop - region.oldStart)).2 := rfl

variable {region : Region}

/-- If the runs that end before an old line are blocks of equal lines, so is the one that ends
before a new line. -/
theorem common_sizeBefore {runs : List (Nat × Nat)} {oldLine place : Nat}
    (each : ∀ run ∈ runs, run.2 ≤ run.1 + 1 ∧ run.2 ≤ oldLine ∧
      IsCommon sides region ⟨oldLine - run.2, run.1 + 1 - run.2, run.2⟩)
    (old : region.oldStart ≤ oldLine) (oldStop : oldLine ≤ region.oldStop)
    (reached : region.newStart ≤ place) (inside : place < region.newStop) :
    sizeBefore runs place ≤ place ∧ sizeBefore runs place ≤ oldLine ∧
      IsCommon sides region ⟨oldLine - sizeBefore runs place, place - sizeBefore runs place,
        sizeBefore runs place⟩ := by
  rcases sizeBefore_cases runs place with ⟨none, -⟩ | ⟨run, member, rfl, size⟩
  · rw [none]
    exact ⟨Nat.zero_le _, Nat.zero_le _, old, oldStop, reached, Nat.le_of_lt inside, by simp⟩
  · rw [size]
    exact each run member

/-- The runs after some old lines, and the best block, are blocks of equal lines. The run before a
line, if there is one, takes the line in. -/
theorem common_runsAfter (old : region.oldStart ≤ region.oldStop)
    (new : region.newStart ≤ region.newStop) {count : Nat}
    (within : region.oldStart + count ≤ region.oldStop) :
    (∀ run ∈ (runsAfter sides.places region count).1,
      run.2 ≤ run.1 + 1 ∧ run.2 ≤ region.oldStart + count ∧
        IsCommon sides region
          ⟨region.oldStart + count - run.2, run.1 + 1 - run.2, run.2⟩) ∧
      IsCommon sides region (runsAfter sides.places region count).2 := by
  induction count with
  | zero =>
    refine ⟨by simp [runsAfter], ?_⟩
    exact ⟨Nat.le_refl _, old, Nat.le_refl _, new, by simp [runsAfter]⟩
  | succ count ih =>
    obtain ⟨runs, best⟩ := ih (by omega)
    rw [runsAfter_succ]
    refine extendRuns_spec region (region.oldStart + count)
      (fun place size => size ≤ place + 1 ∧ size ≤ region.oldStart + (count + 1) ∧
        IsCommon sides region ⟨region.oldStart + (count + 1) - size, place + 1 - size, size⟩)
      (IsCommon sides region) ?fresh ?better best
    case better => exact fun _ _ ⟨_, _, common⟩ => common
    case fresh =>
      intro place member reached inside
      obtain ⟨line, -⟩ := eq_of_mem_places sides member
      obtain ⟨first, second, common⟩ := common_sizeBefore sides runs (Nat.le_add_right _ _)
        (by omega) reached inside
      generalize sizeBefore (runsAfter sides.places region count).1 place = size
        at first second common ⊢
      have grown := common.next (by simp only; omega) (by simp only; omega) (by
        simp only
        rwa [Nat.sub_add_cancel first, Nat.sub_add_cancel second])
      refine ⟨by omega, by omega, ?_⟩
      rwa [show region.oldStart + (count + 1) - (size + 1) = region.oldStart + count - size by omega,
        show place + 1 - (size + 1) = place - size by omega]

/-- A block that takes in equal lines before it is one of equal lines. -/
theorem common_growBack {most : Nat} {block : Block} (common : IsCommon sides region block) :
    IsCommon sides region (sides.growBack region most block) := by
  induction most generalizing block with
  | zero => exact common
  | succ most ih =>
    rw [growBack]
    split
    · rename_i further
      obtain ⟨old, new, line⟩ := further
      exact ih (common.previous old new line)
    · exact common

/-- A block that takes in equal lines after it is one of equal lines. -/
theorem common_growOn {most : Nat} {block : Block} (common : IsCommon sides region block) :
    IsCommon sides region (sides.growOn region most block) := by
  induction most generalizing block with
  | zero => exact common
  | succ most ih =>
    rw [growOn]
    split
    · rename_i further
      obtain ⟨old, new, line⟩ := further
      exact ih (common.next old new line)
    · exact common

/-- The longest block of a region is one of equal lines. -/
theorem common_longest (old : region.oldStart ≤ region.oldStop)
    (new : region.newStart ≤ region.newStop) :
    IsCommon sides region (sides.longest sides.places region) := by
  have run : IsCommon sides region (longestRun sides.places region) := by
    rw [longestRun_eq]
    exact (common_runsAfter sides old new (by omega)).2
  exact common_growOn sides (common_growBack sides run)

/-! ## Blocks one after the other -/

/-- Whether blocks are blocks of equal lines of a region, one after the other on both sides. -/
def InOrder (sides : Sides) (region : Region) : List Block → Prop
  | [] => region.oldStart ≤ region.oldStop ∧ region.newStart ≤ region.newStop
  | block :: rest => IsCommon sides region block ∧
      InOrder sides { region with
        oldStart := block.old + block.size
        newStart := block.new + block.size } rest

/-- Blocks before a block and blocks after it are in order with it. -/
theorem InOrder.append {sides : Sides} {region : Region} {before after : List Block} {block : Block}
    (first : InOrder sides { region with oldStop := block.old, newStop := block.new } before)
    (middle : IsCommon sides { region with oldStart := block.old, newStart := block.new } block)
    (last : InOrder sides { region with
      oldStart := block.old + block.size
      newStart := block.new + block.size } after) :
    InOrder sides region (before ++ block :: after) := by
  induction before generalizing region with
  | nil => exact ⟨middle.widen first.1 (Nat.le_refl _) first.2 (Nat.le_refl _), last⟩
  | cons head rest ih =>
    obtain ⟨common, others⟩ := first
    have oldStop : block.old ≤ region.oldStop :=
      Nat.le_trans (Nat.le_add_right _ block.size) middle.oldStop
    have newStop : block.new ≤ region.newStop :=
      Nat.le_trans (Nat.le_add_right _ block.size) middle.newStop
    exact ⟨common.widen (Nat.le_refl _) oldStop (Nat.le_refl _) newStop,
      ih others middle last⟩

/-- The blocks of a region are in order. -/
theorem inOrder_blocksIn (old : region.oldStart ≤ region.oldStop)
    (new : region.newStart ≤ region.newStop) :
    InOrder sides region (sides.blocksIn sides.places region) := by
  induction size : region.oldStop - region.oldStart using Nat.strongRecOn generalizing region with
  | ind size ih =>
    have common := common_longest sides old new
    rw [blocksIn]
    generalize sides.longest sides.places region = block at common ⊢
    obtain ⟨oldStart, oldStop, newStart, newStop, same⟩ := common
    simp only
    split
    · rename_i inside
      obtain ⟨inhabited, -, -⟩ := inside
      refine InOrder.append ?first ⟨Nat.le_refl _, oldStop, Nat.le_refl _, newStop, same⟩ ?last
      case first =>
        split
        · exact ih (block.old - region.oldStart) (by omega) oldStart newStart rfl
        · exact ⟨oldStart, newStart⟩
      case last =>
        split
        · exact ih (region.oldStop - (block.old + block.size)) (by omega) oldStop newStop rfl
        · exact ⟨oldStop, newStop⟩
    · exact ⟨old, new⟩

/-- Blocks that are joined stay in order. -/
theorem InOrder.joinBlocks {sides : Sides} {region : Region} {blocks : List Block}
    (order : InOrder sides region blocks) : InOrder sides region (Sides.joinBlocks blocks) := by
  fun_induction Sides.joinBlocks blocks generalizing region with
  | case1 first second rest touching ih =>
    obtain ⟨old, new⟩ := touching
    obtain ⟨one, two, others⟩ := order
    refine ih ⟨⟨one.oldStart, ?_, one.newStart, ?_, fun further inside => ?_⟩, ?_⟩
    · have stop := two.oldStop
      simp only at stop ⊢
      omega
    · have stop := two.newStop
      simp only at stop ⊢
      omega
    · simp only at inside ⊢
      by_cases early : further < first.size
      · exact one.same further early
      · have later := two.same (further - first.size) (by omega)
        rwa [← old, ← new, Nat.add_assoc, Nat.add_assoc,
          Nat.add_sub_cancel' (Nat.le_of_not_lt early)] at later
    · simpa only [← old, ← new, Nat.add_assoc] using others
  | case2 first second rest apart ih =>
    obtain ⟨one, others⟩ := order
    exact ⟨one, ih others⟩
  | case3 blocks short => exact order

/-- The blocks that two texts have in common are in order. -/
theorem inOrder_blocks : InOrder sides ⟨0, sides.old.size, 0, sides.new.size⟩ sides.blocks :=
  (inOrder_blocksIn sides (Nat.zero_le _) (Nat.zero_le _)).joinBlocks

/-! ## Equal texts -/

/-- A text on both sides. -/
abbrev both (lines : Array String) : Sides := ⟨lines, lines⟩

/-- All of a text on both sides. -/
abbrev all (lines : Array String) : Region := ⟨0, lines.size, 0, lines.size⟩

/-- How many lines right before an old line are looked for. -/
def steady (sides : Sides) : Nat → Nat
  | 0 => 0
  | line + 1 => if (sides.places[line]?.getD []).isEmpty then 0 else steady sides line + 1

variable {sides}

/-- The places of equal lines are the same. -/
theorem places_congr {one other : Nat} (same : sides.old[one]? = sides.old[other]?) :
    sides.places[one]?.getD [] = sides.places[other]?.getD [] := by
  rw [places, Array.getElem?_map, Array.getElem?_map, same]

/-- A line that is looked for goes on with the run before it. -/
theorem steady_succ {line : Nat} (looked : sides.places[line]?.getD [] ≠ []) :
    sides.steady (line + 1) = sides.steady line + 1 := by
  rw [steady, if_neg (by simpa using looked)]

/-- The places of a line are in ascending order. -/
theorem pairwise_places (line : Nat) : (sides.places[line]?.getD []).Pairwise (· < ·) := by
  rw [places, Array.getElem?_map]
  cases sides.old[line]? with
  | none => simp
  | some text =>
    simp only [Option.map_some, Option.getD_some, placesOf]
    split
    · exact .nil
    · exact List.pairwise_lt_range.filter _

/-- A line that is looked for in its own text is found in its place. -/
theorem mem_places_self {lines : Array String} {line : Nat}
    (looked : (both lines).places[line]?.getD [] ≠ []) :
    line ∈ (both lines).places[line]?.getD [] := by
  rw [places, Array.getElem?_map] at looked ⊢
  cases found : lines[line]? with
  | none => simp [found] at looked
  | some text =>
    obtain ⟨inside, -⟩ := Array.getElem?_eq_some_iff.1 found
    simp only [found, Option.map_some, Option.getD_some, placesOf] at looked ⊢
    split at looked
    · simp at looked
    · rename_i rare
      rw [if_neg rare]
      exact List.mem_filter.2 ⟨List.mem_range.2 inside, by simpa using found⟩

section Straight

variable (region : Region) (oldLine : Nat) {places : List Nat} (runs : List (Nat × Nat))
  (best : Block)

/-- There is a run at each place of a line. -/
theorem map_fst_extendRuns
    (inside : ∀ place ∈ places, region.newStart ≤ place ∧ place < region.newStop) :
    (extendRuns region oldLine places runs best).1.map Prod.fst = places := by
  induction places generalizing best with
  | nil => rfl
  | cons place rest ih =>
    obtain ⟨⟨reached, before⟩, others⟩ := List.forall_mem_cons.1 inside
    rw [extendRuns, if_neg (Nat.not_lt.2 reached), if_neg (Nat.not_le.2 before)]
    rw [List.map_cons, ih _ others]

/-- The best block has its lines in the same places on both sides if no run that goes on is longer
than the one of its line with itself, nor than the one of its place with itself: the run of the line
with itself is only outdone after it was met. -/
theorem straight_extendRuns (bound : Nat → Nat) (sorted : places.Pairwise (· < ·))
    (inside : ∀ place ∈ places, region.newStart ≤ place ∧ place < region.newStop)
    (sizes : ∀ place ∈ places, sizeBefore runs place + 1 ≤ bound place ∧
      sizeBefore runs place + 1 ≤ bound oldLine ∧
      (place = oldLine → sizeBefore runs place + 1 = bound oldLine))
    (met : oldLine ∈ places ∨ bound oldLine ≤ best.size) (straight : best.old = best.new)
    (longest : ∀ line < oldLine, bound line ≤ best.size) :
    (extendRuns region oldLine places runs best).2.old =
        (extendRuns region oldLine places runs best).2.new ∧
      ∀ line ≤ oldLine, bound line ≤ (extendRuns region oldLine places runs best).2.size := by
  induction places generalizing best with
  | nil =>
    refine ⟨straight, fun line before => ?_⟩
    rcases Nat.lt_or_eq_of_le before with earlier | rfl
    · exact longest line earlier
    · exact met.resolve_left (by simp)
  | cons place rest ih =>
    obtain ⟨⟨reached, before⟩, others⟩ := List.forall_mem_cons.1 inside
    obtain ⟨⟨own, line, exact⟩, more⟩ := List.forall_mem_cons.1 sizes
    obtain ⟨ahead, ordered⟩ := List.pairwise_cons.1 sorted
    rw [extendRuns, if_neg (Nat.not_lt.2 reached), if_neg (Nat.not_le.2 before), ← sizeBefore]
    simp only
    by_cases here : place = oldLine
    · subst here
      by_cases longer : best.size < sizeBefore runs place + 1
      · rw [if_pos longer]
        refine ih _ ordered others more (.inr ?_) rfl fun earlier under => ?_
        · exact Nat.le_of_eq (exact rfl).symm
        · exact Nat.le_trans (longest earlier under) (Nat.le_of_lt longer)
      · rw [if_neg longer]
        refine ih _ ordered others more (.inr ?_) straight longest
        rw [← exact rfl]
        exact Nat.le_of_not_lt longer
    · have short : sizeBefore runs place + 1 ≤ best.size := by
        rcases Nat.lt_or_gt_of_ne here with earlier | later
        · exact Nat.le_trans own (longest place earlier)
        · refine Nat.le_trans line (met.resolve_left fun member => ?_)
          rcases List.mem_cons.1 member with rfl | member
          · exact here rfl
          · exact Nat.lt_asymm later (ahead oldLine member)
      rw [if_neg (Nat.not_lt.2 short)]
      refine ih _ ordered others more ?_ straight longest
      exact met.imp_left fun member =>
        (List.mem_cons.1 member).resolve_left fun same => here same.symm

end Straight

/-- Runs and a best block that keep to the runs of lines with themselves: no run is longer than the
one of its place with itself, nor than the one of the line with itself, and the best block has its
lines in the same places on both sides. -/
structure IsStraight (sides : Sides) (count : Nat) (runs : List (Nat × Nat)) (best : Block) :
    Prop where
  /-- No run is longer than the one of its place with itself. -/
  own : ∀ run ∈ runs, run.2 ≤ sides.steady (run.1 + 1)
  /-- No run is longer than the one of the line with itself. -/
  line : ∀ run ∈ runs, run.2 ≤ sides.steady count
  /-- That one is as long as it can be. -/
  exact : ∀ run ∈ runs, run.1 + 1 = count → run.2 = sides.steady count
  /-- It is there if the line is looked for. -/
  met : sides.steady count ≠ 0 → ∃ run ∈ runs, run.1 + 1 = count
  /-- The best block has its lines in the same places. -/
  straight : best.old = best.new
  /-- No run of a line with itself was longer. -/
  longest : ∀ line < count, sides.steady (line + 1) ≤ best.size

/-- What a place takes in is at most as long as its own run, and as that of the line. -/
theorem IsStraight.sizeBefore_le {count : Nat} {runs : List (Nat × Nat)} {best : Block}
    (state : IsStraight sides count runs best) (place : Nat) :
    sizeBefore runs place ≤ sides.steady place ∧ sizeBefore runs place ≤ sides.steady count ∧
      (place = count → sizeBefore runs place = sides.steady count) := by
  rcases sizeBefore_cases runs place with ⟨none, passed⟩ | ⟨run, member, rfl, size⟩
  · rw [none]
    refine ⟨Nat.zero_le _, Nat.zero_le _, fun here => Decidable.byContradiction fun longer => ?_⟩
    obtain ⟨run, member, last⟩ := state.met (Ne.symm longer)
    exact passed run member (last.trans here.symm)
  · rw [size]
    exact ⟨state.own run member, state.line run member, state.exact run member⟩

section Step

variable {lines : Array String} {count : Nat} {runs : List (Nat × Nat)} {best : Block}

/-- A line that has a run with itself is looked for. -/
theorem mem_places_of_steady (some : (both lines).steady (count + 1) ≠ 0) :
    count ∈ (both lines).places[count]?.getD [] := by
  refine mem_places_self fun absent => some ?_
  rw [steady, absent]
  rfl

/-- A run that takes in a line keeps to the runs of lines with themselves. -/
theorem IsStraight.sizeBefore_succ_le (state : IsStraight (both lines) count runs best) {place : Nat}
    (member : place ∈ (both lines).places[count]?.getD []) :
    sizeBefore runs place + 1 ≤ (both lines).steady (place + 1) ∧
      sizeBefore runs place + 1 ≤ (both lines).steady (count + 1) ∧
      (place = count → sizeBefore runs place + 1 = (both lines).steady (count + 1)) := by
  have looked := List.ne_nil_of_mem member
  have same : (both lines).places[count]?.getD [] = (both lines).places[place]?.getD [] :=
    places_congr (eq_of_mem_places _ member).1
  rw [steady_succ looked, steady_succ (same ▸ looked)]
  obtain ⟨own, line, exact⟩ := state.sizeBefore_le place
  exact ⟨by omega, by omega, fun here => by rw [exact here]⟩

/-- The runs and the best block still keep to the runs of lines with themselves after a line. -/
theorem IsStraight.next (state : IsStraight (both lines) count runs best) :
    IsStraight (both lines) (count + 1)
      (extendRuns (all lines) count ((both lines).places[count]?.getD []) runs best).1
      (extendRuns (all lines) count ((both lines).places[count]?.getD []) runs best).2 := by
  have inside : ∀ place ∈ (both lines).places[count]?.getD [], 0 ≤ place ∧ place < lines.size :=
    fun place member => ⟨Nat.zero_le _, (eq_of_mem_places _ member).2⟩
  obtain ⟨each, -⟩ := extendRuns_spec (all lines) count
    (fun place size => size ≤ (both lines).steady (place + 1) ∧
      size ≤ (both lines).steady (count + 1) ∧
      (place = count → size = (both lines).steady (count + 1)))
    (fun _ => True) (fun place member _ _ => state.sizeBefore_succ_le member)
    (fun _ _ _ => trivial) (trivial : (fun _ => True) best)
  have met : count ∈ (both lines).places[count]?.getD [] ∨
      (both lines).steady (count + 1) ≤ best.size := by
    by_cases none : (both lines).steady (count + 1) = 0
    · exact .inr (none ▸ Nat.zero_le _)
    · exact .inl (mem_places_of_steady none)
  obtain ⟨straight, longest⟩ := straight_extendRuns (all lines) count runs best
    (fun place => (both lines).steady (place + 1)) (pairwise_places count) inside
    (fun place member => state.sizeBefore_succ_le member) met state.straight state.longest
  refine ⟨fun run member => (each run member).1, fun run member => (each run member).2.1,
    fun run member last => (each run member).2.2 (Nat.succ.inj last), fun some => ?_, straight,
    fun line before => longest line (Nat.le_of_lt_succ before)⟩
  have member := mem_places_of_steady some
  rw [← map_fst_extendRuns (all lines) count runs best inside] at member
  obtain ⟨run, here, same⟩ := List.mem_map.1 member
  exact ⟨run, here, congrArg (· + 1) same⟩

end Step

/-- In equal texts the runs and the best block after some lines keep to the runs of lines with
themselves. -/
theorem isStraight_runsAfter (lines : Array String) {count : Nat} (within : count ≤ lines.size) :
    IsStraight (both lines) count
      (runsAfter (both lines).places (all lines) count).1
      (runsAfter (both lines).places (all lines) count).2 := by
  induction count with
  | zero => exact ⟨by simp [runsAfter], by simp [runsAfter], by simp [runsAfter], by simp [steady],
      rfl, by simp⟩
  | succ count ih =>
    rw [runsAfter_succ]
    simp only [Nat.zero_add]
    exact (ih (Nat.le_of_succ_le within)).next

/-- A block of equal texts with its lines in the same places takes in all lines before it. -/
theorem growBack_straight (lines : Array String) {start size most : Nat} (enough : start ≤ most) :
    (both lines).growBack (all lines) most ⟨start, start, size⟩ =
      ⟨0, 0, size + start⟩ := by
  induction most generalizing start size with
  | zero =>
    rw [Nat.le_zero.1 enough]
    rfl
  | succ most ih =>
    rw [growBack]
    split
    · rename_i further
      obtain ⟨before, -, -⟩ := further
      simp only at before ⊢
      rw [ih (by omega)]
      congr 1
      omega
    · rename_i whole
      have first : start = 0 := Decidable.byContradiction fun more =>
        whole ⟨Nat.pos_of_ne_zero more, Nat.pos_of_ne_zero more, rfl⟩
      rw [first]
      rfl

/-- A block at the start of equal texts takes in all lines. -/
theorem growOn_straight (lines : Array String) {size most : Nat} (within : size ≤ lines.size)
    (enough : lines.size ≤ size + most) :
    (both lines).growOn (all lines) most ⟨0, 0, size⟩ =
      ⟨0, 0, lines.size⟩ := by
  induction most generalizing size with
  | zero =>
    rw [growOn, Nat.le_antisymm within enough]
  | succ most ih =>
    rw [growOn]
    split
    · rename_i further
      obtain ⟨more, -, -⟩ := further
      simp only [Nat.zero_add] at more
      have grown : (both lines).growOn (all lines) most ⟨0, 0, size + 1⟩ = ⟨0, 0, lines.size⟩ :=
        ih more (by omega)
      exact grown
    · rename_i whole
      have all : size = lines.size := by
        refine Decidable.byContradiction fun less => ?_
        have more : 0 + size < lines.size := by omega
        exact whole ⟨more, more, rfl⟩
      rw [all]

/-- The longest block of equal texts is all of the text. -/
theorem longest_self (lines : Array String) :
    (both lines).longest (both lines).places (all lines) =
      ⟨0, 0, lines.size⟩ := by
  have straight := (isStraight_runsAfter lines (Nat.le_refl _)).straight
  have common : IsCommon (both lines) (all lines)
      (runsAfter (both lines).places (all lines) lines.size).2 :=
    (common_runsAfter (both lines) (Nat.zero_le _) (Nat.zero_le _) (by simp)).2
  have stop := common.oldStop
  rw [longest, longestRun_eq]
  simp only [Nat.sub_zero]
  generalize (runsAfter (both lines).places (all lines)
    lines.size).2 = best at straight stop
  obtain ⟨old, new, size⟩ := best
  simp only at straight stop
  subst straight
  rw [growBack_straight lines (by omega), growOn_straight lines (by omega) (by omega)]

/-- Equal texts have all of their lines in common. -/
theorem blocks_self (lines : Array String) :
    (both lines).blocks =
      if 0 < lines.size then [⟨0, 0, lines.size⟩] else [] := by
  rw [blocks, blocksIn, longest_self]
  by_cases some : 0 < lines.size
  · simp [some, joinBlocks]
  · simp [some, joinBlocks]

end Sides

end LintBench.LineDiff
