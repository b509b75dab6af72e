import LintBench.Proofs.Fixture.Reading

/-!
# What holds while a fixture is read

Placing an expectation can take in what lies at its place and what lies right above
it, and it looks up an earlier line for the latter. Which places are taken when a line
is read depends on all lines before it. After each line the same facts hold, and they
keep the two apart: an expectation never takes in both, and the line exists.
-/

namespace LintBench

open Text

/-! ## What a placement takes in -/

section Placing

variable (markers lines : List (List Char)) (index : LineIndex) (line : Nat) (alone : Bool)

/-- What lies already at the place of a line's expectation. -/
def LineIndex.present : Option Expectation := index.get? (targetOf line alone)

/-- What lies right above the place of a line's expectation. -/
def LineIndex.above : Option Expectation := index.get? (targetOf line alone - 1)

/-- What stacks onto a line's expectation: what lies right above its place, if it comes from a
comment line, no trailing comment has taken it in, and the line that is looked up is a comment. -/
def LineIndex.stacked : Option Expectation :=
  (index.above line alone).filter fun above =>
    above.fromCommentLine && !above.folded
      && isCommentLine markers (lines.getD (targetOf line alone - 2) [])

/-- The index after an expectation was placed that takes in at most one other: what lies at its
place, or else what stacks onto it, which is removed from its own place. -/
def LineIndex.placedOnce (expectation : Expectation) : LineIndex :=
  match index.present line alone, index.stacked markers lines line alone with
  | some present, _ => index.set (targetOf line alone)
      { expectation.merge present with fromCommentLine := alone, folded := true }
  | none, some above => (index.erase (targetOf line alone - 1)).set (targetOf line alone)
      { expectation.merge above with fromCommentLine := alone }
  | none, none => index.set (targetOf line alone) { expectation with fromCommentLine := alone }

/-- The index after a line was read: what the line states, if it states anything, was placed and has
taken in at most one other expectation. -/
def LineIndex.afterRemark (remark : Remark) : LineIndex :=
  match remark.stated with
  | none => index
  | some expectation => index.placedOnce markers lines line remark.isAlone expectation

/-- Placing takes in what is present and what stacks, one after the other, and removes the latter
from its place. -/
theorem placeExpectation_eq_takeIn (expectation : Expectation) :
    placeExpectation markers lines index line alone expectation =
      (if (index.stacked markers lines line alone).isSome
        then index.erase (targetOf line alone - 1) else index).set (targetOf line alone)
        { (({ expectation with fromCommentLine := alone }).takeIn
            (index.present line alone)).takeIn (index.stacked markers lines line alone) with
          folded := expectation.folded ||
            (index.present line alone).any fun present => present.fromCommentLine && !alone } := by
  unfold placeExpectation LineIndex.present LineIndex.stacked LineIndex.above targetOf
  simp only
  generalize (if alone = true then line + 1 else line) = target
  cases index.get? target <;> cases index.get? (target - 1) with
  | none => simp [Expectation.takeIn, Expectation.merge]
  | some above =>
    by_cases joins : (above.fromCommentLine && !above.folded
        && isCommentLine markers (lines.getD (target - 2) [])) = true
    · simp only [Option.filter, if_pos joins]
      simp [Expectation.takeIn, Expectation.merge]
    · simp only [Option.filter, if_neg joins]
      simp [Expectation.takeIn, Expectation.merge]

end Placing

/-! ## After a number of lines -/

/-- What holds of an index after a number of lines were read. -/
structure Tidy (count : Nat) (index : LineIndex) : Prop where
  /-- Every expectation lies under one of these lines or under the next one. -/
  bounds : ∀ entry ∈ index, 1 ≤ entry.1 ∧ entry.1 ≤ count + 1
  /-- What comes from a comment line has not been taken in by a trailing comment. -/
  apart : ∀ entry ∈ index, ¬ (entry.2.fromCommentLine = true ∧ entry.2.folded = true)

section Invariants

variable {markers lines : List (List Char)} {count line : Nat} {index : LineIndex}
  {expectation : Expectation}

/-- What belongs under a line is not both from a comment line and taken in by a trailing comment. -/
theorem apart_of_placed (found : placed markers lines line = some expectation) :
    ¬ (expectation.fromCommentLine = true ∧ expectation.folded = true) := by
  rintro ⟨fromComment, folded⟩
  cases states : remarkAt markers lines line with
  | alone own => simp [placed, states] at found
  | trailing own =>
    obtain ⟨whole, same, notComment⟩ := placed_of_trailing states
    rw [found, Option.some.injEq] at same
    rw [same, notComment] at fromComment
    cases fromComment
  | silent =>
    simp only [placed, states] at found
    obtain ⟨-, gathers⟩ := Option.ite_none_left_eq_some.1 found
    rw [(flags_of_gathered markers lines gathers).2] at folded
    cases folded

/-- What lies under a line in the middle of the reading belongs there or is gathered above it. -/
theorem placed_or_gathered_of_placedAfter
    (found : placedAfter markers lines count line = some expectation) :
    placed markers lines line = some expectation ∨
      gathered markers lines line = some expectation := by
  unfold placedAfter at found
  split at found
  · exact .inl found
  · split at found
    · split at found
      · exact .inr found
      · exact .inl found
    · split at found
      · exact .inr found
      · cases found

/-- Where everything is as it belongs after a number of lines, the index is tidy. -/
theorem Holds.tidy (holds : Holds markers lines count index) : Tidy count index := by
  have shown : ∀ entry ∈ index, placedAfter markers lines count entry.1 = some entry.2 := by
    intro entry member
    rw [← holds.shows]
    exact (LineIndex.get?_eq_some_iff holds.ordered entry.1 entry.2).2 member
  constructor
  · intro entry member
    have here := shown entry member
    constructor
    · by_contra above
      rw [Nat.lt_one_iff.1 (Nat.lt_of_not_le above), ← holds.shows, holds.get?_zero] at here
      cases here
    · by_contra below
      rw [placedAfter_of_gt _ _ (Nat.lt_of_not_le below)] at here
      cases here
  · intro entry member
    rcases placed_or_gathered_of_placedAfter (shown entry member) with belongs | gathers
    · exact apart_of_placed belongs
    · rintro ⟨-, folded⟩
      rw [(flags_of_gathered markers lines gathers).2] at folded
      cases folded

/-! ## When an expectation is placed -/

/-- What lies at the place of a line's expectation is what is gathered above the line, and the
expectation is that of a trailing comment. -/
theorem Holds.present_eq (holds : Holds markers lines count index) (alone : Bool) :
    index.present (count + 1) alone =
      if alone then none else gathered markers lines (count + 1) := by
  cases alone with
  | true => simp [LineIndex.present, targetOf, holds.shows]
  | false => simpa [LineIndex.present, targetOf] using holds.get?_next

/-- If something lies at the place of a line's expectation, the line above states something alone,
and the expectation is that of a trailing comment. -/
theorem Holds.alone_of_present (holds : Holds markers lines count index) {alone : Bool}
    {present : Expectation} (found : index.present (count + 1) alone = some present) :
    alone = false ∧ present.fromCommentLine = true ∧
      ∃ own, remarkAt markers lines count = .alone own := by
  rw [holds.present_eq] at found
  obtain ⟨trailing, gathers⟩ := Option.ite_none_left_eq_some.1 found
  refine ⟨by simpa using trailing, (flags_of_gathered markers lines gathers).1, ?_⟩
  by_contra other
  rw [not_exists] at other
  rw [gathered_succ_of_not_alone markers lines other] at gathers
  cases gathers

/-- An expectation takes in what lies at its place or what stacks onto it, and not both. -/
theorem Holds.takes_one (holds : Holds markers lines count index) (alone : Bool) :
    index.present (count + 1) alone = none ∨
      index.stacked markers lines (count + 1) alone = none := by
  cases found : index.present (count + 1) alone with
  | none => exact .inl rfl
  | some present =>
    right
    obtain ⟨rfl, -, own, states⟩ := holds.alone_of_present found
    have gone : index.get? count = none := by
      rw [holds.shows, placedAfter_self, states]
      simp [placed, states]
    simp [LineIndex.stacked, LineIndex.above, targetOf, gone]

/-- Placing an expectation takes in at most one other. -/
theorem Holds.placeExpectation_eq_placedOnce (holds : Holds markers lines count index)
    (alone : Bool) (expectation : Expectation) :
    placeExpectation markers lines index (count + 1) alone expectation =
      index.placedOnce markers lines (count + 1) alone expectation := by
  rw [placeExpectation_eq_takeIn, LineIndex.placedOnce]
  cases found : index.present (count + 1) alone with
  | none =>
    cases index.stacked markers lines (count + 1) alone <;>
      simp [Expectation.takeIn, Expectation.merge]
  | some present =>
    have unstacked := (holds.takes_one alone).resolve_left (by simp [found])
    obtain ⟨rfl, fromComment, -⟩ := holds.alone_of_present found
    simp [unstacked, fromComment, Expectation.takeIn, Expectation.merge]

end Invariants

/-! ## The whole reading -/

section Reading

variable (name content : String) (markers : List String) (count : Nat)

/-- Whether the last of a number of lines has put an expectation under the next line, where nothing
lay before: it states the expectation, and nothing else stands on it. -/
def PutBelow (file : FixtureFile) : Prop :=
  ∃ before earlier own, count = before + 1 ∧
    FixtureFile.readUpTo name content markers before = .ok earlier ∧
    earlier.expectations.get? (count + 1) = none ∧
    remarkAt (markers.map String.toList) (linesOf content) count = .alone own ∧
    file.expectations = placeExpectation (markers.map String.toList) (linesOf content)
      earlier.expectations count true own

/-- What holds when the expectation of the next line is placed, which stands alone on the line or
not. -/
structure PlacesOnce (file : FixtureFile) (alone : Bool) : Prop where
  /-- If something lies at its place, it is that of a trailing comment, and the line right above has
  put there what it states alone. -/
  present : ∀ present, file.expectations.present (count + 1) alone = some present →
    alone = false ∧ present.fromCommentLine = true ∧ PutBelow name content markers count file
  /-- It takes in what lies at its place or what stacks onto it, and not both. -/
  once : file.expectations.present (count + 1) alone = none ∨
    file.expectations.stacked (markers.map String.toList) (linesOf content) (count + 1) alone = none
  /-- If something lies above its place, the line that is looked up is one of the text. -/
  lookup : (file.expectations.above (count + 1) alone).isSome →
    2 ≤ targetOf (count + 1) alone ∧ targetOf (count + 1) alone - 2 < (linesOf content).length

variable {name content markers count}

/-- If a line states something alone, what it states was put below when the line was read. -/
theorem putBelow_of_alone {file : FixtureFile} (within : count ≤ (linesOf content).length)
    (read : FixtureFile.readUpTo name content markers count = .ok file) {own : Expectation}
    (states : remarkAt (markers.map String.toList) (linesOf content) count = .alone own) :
    PutBelow name content markers count file := by
  cases count with
  | zero => simp [remarkAt_zero] at states
  | succ before =>
    rw [readUpTo_succ within] at read
    obtain ⟨earlier, readEarlier, step⟩ := Runs.bind_eq_ok.1 read
    have holds := holds_of_readUpTo readEarlier (Nat.le_of_succ_le within)
    have placed := expectations_readLine step
    rw [remarkAt] at states
    rw [states] at placed
    refine ⟨before, earlier, own, rfl, readEarlier, ?_, states, placed⟩
    rw [holds.shows, placedAfter_of_gt _ _ (Nat.lt_succ_self _)]

/-- An expectation that is placed after a number of lines takes in one other at most. -/
theorem placesOnce_of_readUpTo {file : FixtureFile} (within : count < (linesOf content).length)
    (read : FixtureFile.readUpTo name content markers count = .ok file) (alone : Bool) :
    PlacesOnce name content markers count file alone := by
  have holds := holds_of_readUpTo read (Nat.le_of_lt within)
  refine ⟨fun present found => ?_, holds.takes_one alone, holds.lookup_inside within⟩
  obtain ⟨trailing, fromComment, own, states⟩ := holds.alone_of_present found
  exact ⟨trailing, fromComment, putBelow_of_alone (Nat.le_of_lt within) read states⟩

/-- Reading a line places what it states, with at most one other expectation taken in, and changes
nothing else. -/
theorem expectations_of_readUpTo {before after : FixtureFile}
    (within : count < (linesOf content).length)
    (readBefore : FixtureFile.readUpTo name content markers count = .ok before)
    (step : FixtureFile.readLine (markers.map String.toList) (linesOf content) before
      (lineAt (linesOf content) (count + 1), count + 1) = .ok after) :
    after.expectations =
      before.expectations.afterRemark (markers.map String.toList) (linesOf content) (count + 1)
        (remarkAt (markers.map String.toList) (linesOf content) (count + 1)) := by
  have holds := holds_of_readUpTo readBefore (Nat.le_of_lt within)
  rw [expectations_readLine step, ← remarkAt]
  cases remarkAt (markers.map String.toList) (linesOf content) (count + 1) with
  | silent => rfl
  | alone expectation => exact holds.placeExpectation_eq_placedOnce true expectation
  | trailing expectation => exact holds.placeExpectation_eq_placedOnce false expectation

/-- As long as the comments can be read, the index is tidy after each line. When the expectation of
a line is placed, it takes in at most one other; if that lies at its place, the expectation is that
of a trailing comment, and the comment right above has put it there; and a line that is looked up is
one of the text. -/
theorem tidy_while_reading (name content : String) (markers : List String) {count : Nat}
    (within : count < (linesOf content).length)
    (readable : Readable (markers.map String.toList) ((linesOf content).take (count + 1))) :
    ∃ before after, FixtureFile.readUpTo name content markers count = .ok before ∧
      FixtureFile.readUpTo name content markers (count + 1) = .ok after ∧
      Tidy (count + 1) after.expectations ∧
      (∀ alone, PlacesOnce name content markers count before alone) ∧
      after.expectations =
        before.expectations.afterRemark (markers.map String.toList) (linesOf content) (count + 1)
          (remarkAt (markers.map String.toList) (linesOf content) (count + 1)) := by
  obtain ⟨after, read⟩ :
      ∃ after, FixtureFile.readUpTo name content markers (count + 1) = .ok after :=
    exists_foldlM 1 _ readable
  have whole := read
  rw [readUpTo_succ within] at read
  obtain ⟨before, readBefore, step⟩ := Runs.bind_eq_ok.1 read
  exact ⟨before, after, readBefore, whole, (holds_of_readUpTo whole within).tidy,
    placesOnce_of_readUpTo within readBefore, expectations_of_readUpTo within readBefore step⟩

/-- Two comment lines above a line with a trailing comment. -/
def stackOnTrailing : String := "# [A-1]: 3\n# [A-2]\nf() # [A-3]"

/-- The trailing comment takes in what the line right above has put at its place. -/
theorem tidy_while_reading_stacked :
    2 < (linesOf stackOnTrailing).length ∧
      Readable (["#"].map String.toList) ((linesOf stackOnTrailing).take (2 + 1)) ∧
      ∃ before after, FixtureFile.readUpTo "a.py" stackOnTrailing ["#"] 2 = .ok before ∧
        FixtureFile.readUpTo "a.py" stackOnTrailing ["#"] (2 + 1) = .ok after ∧
        Tidy (2 + 1) after.expectations ∧
        PlacesOnce "a.py" stackOnTrailing ["#"] 2 before false ∧
        (before.expectations.present (2 + 1) false).isSome ∧
        after.expectations = before.expectations.placedOnce (["#"].map String.toList)
          (linesOf stackOnTrailing) (2 + 1) false
          { details := [("A-3", [])], raised := [("A-3", false)] } := by
  have within : 2 < (linesOf stackOnTrailing).length := by decide +kernel
  have readable : Readable (["#"].map String.toList) ((linesOf stackOnTrailing).take (2 + 1)) := by
    decide +kernel
  have states : remarkAt (["#"].map String.toList) (linesOf stackOnTrailing) (2 + 1) =
      .trailing { details := [("A-3", [])], raised := [("A-3", false)] } := by decide +kernel
  obtain ⟨before, after, readBefore, readAfter, tidy, once, placed⟩ :=
    tidy_while_reading "a.py" stackOnTrailing ["#"] within readable
  have waits : (FixtureFile.readUpTo "a.py" stackOnTrailing ["#"] 2).map
      (fun file => (file.expectations.present (2 + 1) false).isSome) = .ok true := by
    decide +kernel
  rw [readBefore] at waits
  rw [states] at placed
  exact ⟨within, readable, before, after, readBefore, readAfter, tidy, once false,
    Except.ok.inj waits, placed⟩

end Reading

end LintBench
