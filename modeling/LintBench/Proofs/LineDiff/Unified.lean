import LintBench.LineDiff.Unified
import LintBench.Proofs.LineDiff.Blocks

/-!
# Empty diffs

The unified diff of two texts is empty exactly if the texts are equal: the blocks
leave out no line if nothing is replaced, and a text and itself have one block.
-/

namespace LintBench.LineDiff

/-- Whether nothing is replaced in some stretches. -/
def AllSame (stretches : List Stretch) : Prop := ∀ stretch ∈ stretches, stretch.change = .same

/-! ## Cutting into hunks -/

/-- Cutting leaves what becomes of the stretches. -/
theorem map_change_cutFirst (stretches : List Stretch) :
    (cutFirst stretches).map Stretch.change = stretches.map Stretch.change := by
  cases stretches with
  | nil => rfl
  | cons first rest =>
    rw [cutFirst]
    split <;> rfl

/-- Cutting the last stretch keeps what the stretches do. -/
theorem map_change_cutLast (stretches : List Stretch) :
    (cutLast stretches).map Stretch.change = stretches.map Stretch.change := by
  fun_induction cutLast stretches with
  | case1 => rfl
  | case2 last => split <;> rfl
  | case3 first rest more ih => rw [List.map_cons, ih, List.map_cons]

/-- Whether nothing is replaced is told by what becomes of the stretches. -/
theorem allSame_iff_map_change {stretches : List Stretch} :
    AllSame stretches ↔ ∀ change ∈ stretches.map Stretch.change, change = .same := by
  rw [List.forall_mem_map]
  rfl

/-- A stretch that parts hunks is one that stays the same. -/
theorem Stretch.change_of_parts {stretch : Stretch} (parts : stretch.parts = true) :
    stretch.change = .same := by
  rw [Stretch.parts, Bool.and_eq_true, decide_eq_true_iff] at parts
  exact parts.1

/-- Something is replaced in some hunk exactly if something is replaced in the stretches. -/
theorem allSame_hunksFrom {begun stretches : List Stretch} :
    (∀ hunk ∈ hunksFrom begun stretches, AllSame hunk) ↔ AllSame begun ∧ AllSame stretches := by
  induction stretches generalizing begun with
  | nil => simp [hunksFrom, AllSame]
  | cons stretch rest ih =>
    rw [hunksFrom, AllSame, AllSame, List.forall_mem_cons]
    split
    · rename_i parts
      have same := Stretch.change_of_parts parts
      rw [List.forall_mem_cons, ih]
      simp only [AllSame, List.forall_mem_append, List.mem_singleton, forall_eq, same, true_and]
      rw [show stretch.beginning.change = .same from same,
        show stretch.ending.change = .same from same]
      simp
    · rw [ih]
      simp only [AllSame, List.forall_mem_append, List.mem_singleton, forall_eq]
      rw [and_assoc]

/-- There are no hunks exactly if nothing is replaced. -/
theorem hunks_eq_nil_iff {sides : Sides} : hunks sides = [] ↔ AllSame (stretches sides) := by
  have cut : AllSame (cutLast (cutFirst (stretches sides))) ↔ AllSame (stretches sides) := by
    rw [allSame_iff_map_change, map_change_cutLast, map_change_cutFirst, ← allSame_iff_map_change]
  have none : hunks sides = [] ↔
      ∀ hunk ∈ hunksFrom [] (cutLast (cutFirst (stretches sides))), AllSame hunk := by
    rw [hunks, List.filter_eq_nil_iff]
    simp [AllSame]
  rw [none, allSame_hunksFrom, cut]
  simp [AllSame]

/-! ## Stretches of equal lines -/

/-- If nothing is replaced from some lines on, the same lines follow on both sides. -/
theorem getElem?_of_allSame {sides : Sides} {old new : Nat} {blocks : List Block}
    (order : Sides.InOrder sides ⟨old, sides.old.size, new, sides.new.size⟩ blocks)
    (same : AllSame (stretchesFrom sides old new blocks)) (further : Nat) :
    sides.old[old + further]? = sides.new[new + further]? := by
  induction blocks generalizing old new further with
  | nil =>
    rw [stretchesFrom] at same
    split at same
    · have replaced := same _ List.mem_cons_self
      cases replaced
    · rename_i whole
      rw [Array.getElem?_eq_none (by omega), Array.getElem?_eq_none (by omega)]
  | cons block rest ih =>
    obtain ⟨common, others⟩ := order
    obtain ⟨oldStart, -, newStart, -, equal⟩ := common
    rw [stretchesFrom, AllSame, List.forall_mem_append, List.forall_mem_cons] at same
    obtain ⟨gap, -, later⟩ := same
    have close : ¬ (old < block.old ∨ new < block.new) := by
      intro apart
      rw [if_pos apart] at gap
      cases gap _ List.mem_cons_self
    simp only at oldStart newStart
    obtain rfl : block.old = old := by omega
    obtain rfl : block.new = new := by omega
    by_cases inside : further < block.size
    · exact equal further inside
    · have next := ih others later (further - block.size)
      rwa [Nat.add_assoc, Nat.add_assoc, Nat.add_sub_cancel' (Nat.le_of_not_lt inside)] at next

/-- Nothing is replaced exactly if the texts are equal. -/
theorem allSame_stretches_iff {sides : Sides} : AllSame (stretches sides) ↔ sides.old = sides.new := by
  constructor
  · intro same
    apply Array.ext_getElem?
    intro line
    have equal := getElem?_of_allSame sides.inOrder_blocks same line
    rwa [Nat.zero_add] at equal
  · obtain ⟨lines, others⟩ := sides
    intro equal
    obtain rfl : lines = others := equal
    rw [stretches, Sides.blocks_self]
    by_cases some : 0 < lines.size
    · simp [some, stretchesFrom, AllSame]
    · simp [some, stretchesFrom, AllSame]

/-- The unified diff of two texts is empty exactly if the texts are equal. -/
theorem unified_eq_nil_iff {oldName newName : String} {old new : List String} :
    unified oldName newName old new = [] ↔ old = new := by
  have hunks_iff : hunks ⟨old.toArray, new.toArray⟩ = [] ↔ old = new := by
    rw [hunks_eq_nil_iff, allSame_stretches_iff]
    exact ⟨congrArg Array.toList, congrArg List.toArray⟩
  rw [← hunks_iff, unified]
  split <;> simp_all

end LintBench.LineDiff
