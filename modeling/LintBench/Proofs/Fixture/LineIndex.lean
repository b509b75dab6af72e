import LintBench.Fixture.Basic
import Mathlib.Data.List.Basic

/-!
# Laws of line indices

The entries of a line index stand in ascending order of their lines. Such an index
is fixed by what it answers to each lookup, and setting a line that has an
expectation changes that expectation in place.
-/

namespace LintBench.LineIndex

/-- The entries stand in ascending order of their lines, each line once. -/
def Ordered (index : LineIndex) : Prop := index.Pairwise fun entry later => entry.1 < later.1

/-- A line that no entry has shows nothing. -/
theorem get?_eq_none_iff (index : LineIndex) (line : Nat) :
    get? index line = none ↔ ∀ entry ∈ index, entry.1 ≠ line := by
  induction index with
  | nil => simp [get?]
  | cons head rest ih =>
    obtain ⟨first, present⟩ := head
    by_cases same : first = line
    · simp [get?, same]
    · simp [get?, same, ih]

/-- What a lookup finds is listed. -/
theorem mem_of_get? {index : LineIndex} {line : Nat} {expectation : Expectation}
    (found : get? index line = some expectation) : (line, expectation) ∈ index := by
  induction index with
  | nil => cases found
  | cons head rest ih =>
    obtain ⟨first, present⟩ := head
    rw [get?] at found
    split at found
    · rename_i same
      rw [← same, ← Option.some.inj found]
      exact List.mem_cons_self
    · exact List.mem_cons_of_mem _ (ih found)

/-- In an ordered index, what a lookup finds is exactly what is listed. -/
theorem get?_eq_some_iff {index : LineIndex} (ordered : index.Ordered) (line : Nat)
    (expectation : Expectation) :
    get? index line = some expectation ↔ (line, expectation) ∈ index := by
  induction index with
  | nil => simp [get?]
  | cons head rest ih =>
    obtain ⟨first, present⟩ := head
    obtain ⟨after, orderedRest⟩ := List.pairwise_cons.1 ordered
    rw [get?, List.mem_cons, Prod.mk.injEq]
    by_cases same : first = line
    · subst same
      have unlisted : (first, expectation) ∉ rest := fun member =>
        Nat.lt_irrefl first (after _ member)
      simp [unlisted, eq_comm]
    · rw [if_neg same, ih orderedRest]
      simp [Ne.symm same]

/-- Two ordered indices that show the same under every line are equal. -/
theorem ext_get? {left right : LineIndex} (orderedLeft : left.Ordered)
    (orderedRight : right.Ordered) (same : ∀ line, get? left line = get? right line) :
    left = right := by
  have members : ∀ entry, entry ∈ left ↔ entry ∈ right := fun (line, expectation) => by
    rw [← get?_eq_some_iff orderedLeft, ← get?_eq_some_iff orderedRight, same]
  have distinctLeft : left.Nodup := orderedLeft.imp fun before => by
    rintro rfl
    exact Nat.lt_irrefl _ before
  have distinctRight : right.Nodup := orderedRight.imp fun before => by
    rintro rfl
    exact Nat.lt_irrefl _ before
  have perm := (List.perm_ext_iff_of_nodup distinctLeft distinctRight).2 members
  exact perm.eq_of_pairwise
    (fun one other _ _ before after => absurd (Nat.lt_trans before after) (Nat.lt_irrefl _))
    orderedLeft orderedRight

/-- Setting a line lists nothing but that line and what was there. -/
theorem mem_set {index : LineIndex} {line : Nat} {expectation : Expectation}
    {entry : Nat × Expectation} (member : entry ∈ set index line expectation) :
    entry = (line, expectation) ∨ entry ∈ index := by
  induction index with
  | nil => simpa [set] using member
  | cons head rest ih =>
    obtain ⟨first, present⟩ := head
    simp only [set] at member
    split at member
    · rcases List.mem_cons.1 member with rfl | later
      · exact .inr List.mem_cons_self
      · exact (ih later).imp_right (List.mem_cons_of_mem _)
    · split at member
      · exact (List.mem_cons.1 member).imp_right (List.mem_cons_of_mem _)
      · exact List.mem_cons.1 member

/-- Setting a line keeps an index ordered. -/
theorem Ordered.set {index : LineIndex} (ordered : index.Ordered) (line : Nat)
    (expectation : Expectation) : (LineIndex.set index line expectation).Ordered := by
  induction index with
  | nil => exact List.pairwise_singleton _ _
  | cons head rest ih =>
    obtain ⟨first, present⟩ := head
    obtain ⟨after, orderedRest⟩ := List.pairwise_cons.1 ordered
    simp only [LineIndex.set]
    split
    · rename_i before
      refine List.pairwise_cons.2 ⟨fun entry member => ?_, ih orderedRest⟩
      rcases mem_set member with rfl | listed
      · exact before
      · exact after entry listed
    · split
      · rename_i same
        exact List.pairwise_cons.2 ⟨fun entry member => same ▸ after entry member, orderedRest⟩
      · refine List.pairwise_cons.2 ⟨fun entry member => ?_, ordered⟩
        rcases List.mem_cons.1 member with rfl | later
        · simp only
          omega
        · have := after entry later
          simp only at this ⊢
          omega

/-- Erasing a line keeps an index ordered. -/
theorem Ordered.erase {index : LineIndex} (ordered : index.Ordered) (line : Nat) :
    (LineIndex.erase index line).Ordered := ordered.filter _

/-- Erasing a line that shows nothing changes nothing. -/
theorem erase_of_absent {index : LineIndex} {line : Nat} (absent : get? index line = none) :
    erase index line = index :=
  List.filter_eq_self.2 fun entry member => by
    simpa using (get?_eq_none_iff index line).1 absent entry member

/-- Changing expectations in place keeps an index ordered. -/
theorem Ordered.map_value {index : LineIndex} (ordered : index.Ordered)
    (change : Nat → Expectation → Expectation) :
    Ordered (index.map fun (line, expectation) => (line, change line expectation)) :=
  List.pairwise_map.2 ordered

/-- A change of every expectation shows under every line. -/
theorem get?_map_value (index : LineIndex) (change : Nat → Expectation → Expectation)
    (line : Nat) :
    get? (index.map fun (line, expectation) => (line, change line expectation)) line =
      (get? index line).map (change line) := by
  induction index with
  | nil => rfl
  | cons head rest ih =>
    obtain ⟨first, present⟩ := head
    simp only [List.map_cons, get?, ih]
    split
    · rename_i same
      simp [same]
    · rfl

/-- Setting a line that has an expectation changes that expectation in place. -/
theorem set_eq_map_value {index : LineIndex} (ordered : index.Ordered) {line : Nat}
    {present : Expectation} (found : get? index line = some present)
    (change : Expectation → Expectation) :
    set index line (change present) =
      index.map fun (l, expectation) =>
        (l, if l = line then change expectation else expectation) := by
  refine ext_get? (ordered.set line _)
    (ordered.map_value fun l expectation => if l = line then change expectation else expectation) ?_
  intro asked
  rw [get?_set, get?_map_value index
    (fun l expectation => if l = line then change expectation else expectation)]
  by_cases same : line = asked
  · subst same
    simp [found]
  · simp [same, Ne.symm same]

/-! ## Indices given line by line -/

variable (given : Nat → Option Expectation)

/-- The index of some consecutive lines, of which each has at most one expectation. -/
def ofLines (first count : Nat) : LineIndex :=
  (List.range' first count).filterMap fun line => (given line).map (line, ·)

/-- The index of consecutive lines is ordered. -/
theorem ordered_ofLines (first count : Nat) : (ofLines given first count).Ordered := by
  rw [Ordered, ofLines, List.pairwise_filterMap]
  have ascending : (List.range' first count).Pairwise (· < ·) := List.pairwise_lt_range'
  refine ascending.imp fun before entry listed later listedLater => ?_
  obtain ⟨_, -, rfl⟩ := Option.map_eq_some_iff.1 listed
  obtain ⟨_, -, rfl⟩ := Option.map_eq_some_iff.1 listedLater
  exact before

/-- The index of consecutive lines shows under each of them what it was given. -/
theorem get?_ofLines (first count line : Nat) :
    get? (ofLines given first count) line =
      if first ≤ line ∧ line < first + count then given line else none := by
  cases found : get? (ofLines given first count) line with
  | none =>
    have absent := (get?_eq_none_iff _ _).1 found
    split
    · rename_i inside
      cases present : given line with
      | none => rfl
      | some expectation =>
        refine absurd rfl (absent (line, expectation) ?_)
        exact List.mem_filterMap.2 ⟨line, List.mem_range'_1.2 inside, by simp [present]⟩
    · rfl
  | some expectation =>
    have listed := (get?_eq_some_iff (ordered_ofLines given first count) _ _).1 found
    obtain ⟨own, inside, present⟩ := List.mem_filterMap.1 listed
    obtain ⟨_, givenOwn, same⟩ := Option.map_eq_some_iff.1 present
    obtain ⟨rfl, rfl⟩ := Prod.mk.inj same
    rw [if_pos (List.mem_range'_1.1 inside), givenOwn]

/-- An ordered index that shows nothing outside some consecutive lines is the index of what it
shows under these. -/
theorem eq_ofLines {index : LineIndex} (ordered : index.Ordered) (first count : Nat)
    (inside : ∀ line, first ≤ line ∧ line < first + count → get? index line = given line)
    (outside : ∀ line, ¬ (first ≤ line ∧ line < first + count) → get? index line = none) :
    index = ofLines given first count := by
  refine ext_get? ordered (ordered_ofLines given first count) fun line => ?_
  rw [get?_ofLines]
  split
  · rename_i within
    exact inside line within
  · rename_i without
    exact outside line without

/-- The index of consecutive lines is that of the first of them, and then that of the others. -/
theorem ofLines_append (first count more : Nat) :
    ofLines given first (count + more) =
      ofLines given first count ++ ofLines given (first + count) more := by
  have parted : List.range' first (count + more) =
      List.range' first count ++ List.range' (first + count) more := by
    rw [List.range'_append_1]
  rw [ofLines, parted, List.filterMap_append, ofLines, ofLines]

/-- The index of consecutive lines depends on what these are given alone. -/
theorem ofLines_congr {given other : Nat → Option Expectation} {first count : Nat}
    (same : ∀ line, first ≤ line → line < first + count → given line = other line) :
    ofLines given first count = ofLines other first count := by
  apply List.filterMap_congr
  intro line member
  have inside := List.mem_range'_1.1 member
  rw [same line inside.1 inside.2]

/-- The lines of the entries are among the consecutive lines. -/
theorem bounds_of_mem_ofLines {first count line : Nat}
    (member : line ∈ (ofLines given first count).map Prod.fst) :
    first ≤ line ∧ line < first + count := by
  obtain ⟨entry, listed, rfl⟩ := List.mem_map.1 member
  obtain ⟨own, inside, present⟩ := List.mem_filterMap.1 listed
  obtain ⟨_, -, same⟩ := Option.map_eq_some_iff.1 present
  rw [← same]
  exact List.mem_range'_1.1 inside

/-! ## Indices further down -/

/-- An index whose lines stand so much further down. -/
def shift (index : LineIndex) (count : Nat) : LineIndex :=
  index.map fun (line, expectation) => (line + count, expectation)

/-- What is given further down makes the index that stands further down. -/
theorem ofLines_shift {given below : Nat → Option Expectation} {first count depth : Nat}
    (same : ∀ line, first ≤ line → line < first + count → given (line + depth) = below line) :
    ofLines given (first + depth) count = shift (ofLines below first count) depth := by
  have lower : List.range' (first + depth) count =
      (List.range' first count).map (depth + ·) := by
    rw [List.map_add_range', Nat.add_comm]
  rw [shift, ofLines, ofLines, lower, List.filterMap_map, List.map_filterMap]
  apply List.filterMap_congr
  intro line member
  have inside := List.mem_range'_1.1 member
  simp only [Function.comp_apply, Nat.add_comm depth line, same line inside.1 inside.2,
    Option.map_map]
  rfl

end LintBench.LineIndex
