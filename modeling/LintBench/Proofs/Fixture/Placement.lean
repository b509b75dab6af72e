import LintBench.Fixture.Extraction
import LintBench.Proofs.Expectation.Reading
import LintBench.Proofs.Fixture.LineIndex

/-!
# Where expectations are placed

The reading of a fixture goes through its lines once and moves expectations about
in the index as it goes. Here the place of every expectation is said line by line
instead, from what the lines around it state, and the reading is shown to arrive
at these places.
-/

namespace LintBench

open Text

/-! ## What a line states -/

/-- What the comment of a line states, and how the comment stands. -/
inductive Remark where
  /-- The line states nothing. -/
  | silent
  /-- The comment takes the whole line. -/
  | alone (expectation : Expectation)
  /-- The comment comes after something else. -/
  | trailing (expectation : Expectation)
deriving DecidableEq

namespace Remark

/-- The expectation that a line states, if it states one. -/
def stated : Remark → Option Expectation
  | .silent => none
  | .alone expectation | .trailing expectation => some expectation

/-- Whether a line states something and nothing else stands on it. -/
def isAlone : Remark → Bool
  | .alone _ => true
  | _ => false

/-- Whether a comment that states something comes after something else. -/
def isTrailing : Remark → Bool
  | .trailing _ => true
  | _ => false

end Remark

/-- What a line states: what is read after the first marker in it, if that lists a code. -/
def remarkOf (markers : List (List Char)) (line : List Char) : Remark :=
  match findComment markers (trim line) with
  | none => .silent
  | some (marker, comment) =>
    match Expectation.read comment with
    | .error _ => .silent
    | .ok expectation =>
      if expectation.details.isEmpty then .silent
      else if marker.isPrefixOf (trim line) then .alone expectation
      else .trailing expectation

/-- The line of a number, which counts from one; there is nothing outside the text. -/
def lineAt (lines : List (List Char)) : Nat → List Char
  | 0 => []
  | line + 1 => lines.getD line []

/-- Whether the comment of every line can be read. -/
def Readable (markers lines : List (List Char)) : Prop :=
  ∀ line ∈ lines, ∀ found ∈ findComment markers (trim line), (Expectation.read found.2).isOk

instance (markers lines : List (List Char)) : Decidable (Readable markers lines) :=
  inferInstanceAs (Decidable (∀ line ∈ lines, ∀ found ∈ findComment markers (trim line),
    (Expectation.read found.2).isOk))

section Reference

variable (markers lines : List (List Char))

/-- What the line of a number states. -/
def remarkAt (line : Nat) : Remark := remarkOf markers (lineAt lines line)

/-- What the lines right above a line state, as far as each is a comment that states something; the
nearest line comes first. -/
def pileAbove : Nat → List Expectation
  | 0 => []
  | line + 1 =>
    match remarkAt markers lines line with
    | .alone expectation => expectation :: pileAbove line
    | _ => []

/-- The pile above a line as one expectation: the newest takes in the older ones. -/
def gathered (line : Nat) : Option Expectation :=
  match pileAbove markers lines line with
  | [] => none
  | newest :: older => some { older.foldl .merge newest with fromCommentLine := true }

/-- An expectation with what was gathered, if anything was, taken in. -/
def Expectation.takeIn (expectation : Expectation) : Option Expectation → Expectation
  | none => expectation
  | some other => expectation.merge other

/-- The expectation that belongs under a line. A trailing comment takes in the pile right above its
line, or else the one above a comment that states nothing. What is gathered above any other line
stays there, unless the line is such a comment and the next line takes its pile away. -/
def placed (line : Nat) : Option Expectation :=
  match remarkAt markers lines line with
  | .alone _ => none
  | .trailing expectation =>
    match remarkAt markers lines (line - 1) with
    | .alone _ => some { expectation.takeIn (gathered markers lines line) with folded := true }
    | .trailing _ => some expectation
    | .silent =>
      if isCommentLine markers (lineAt lines (line - 1)) then
        some (expectation.takeIn (gathered markers lines (line - 1)))
      else some expectation
  | .silent =>
    if isCommentLine markers (lineAt lines line)
        && (remarkAt markers lines (line + 1)).isTrailing then none
    else gathered markers lines line

end Reference

/-! ## Lines -/

/-- The marker of a comment is one of the markers, and no empty one. -/
theorem mem_of_findComment {markers : List (List Char)} {line marker comment : List Char}
    (found : findComment markers line = some (marker, comment)) :
    marker ∈ markers ∧ marker.isEmpty = false := by
  obtain ⟨own, member, same⟩ := List.exists_of_findSome?_eq_some found
  split at same
  · cases same
  · rename_i filled
    obtain ⟨_, -, equal⟩ := Option.map_eq_some_iff.1 same
    cases equal
    exact ⟨member, by simpa using filled⟩

/-- A line that states something has a comment, of which it is read, and which lists a code. -/
theorem remarkOf_cases (markers : List (List Char)) (line : List Char) :
    remarkOf markers line = .silent ∨
      ∃ marker comment expectation, findComment markers (trim line) = some (marker, comment) ∧
        Expectation.read comment = .ok expectation ∧ expectation.details.isEmpty = false ∧
        remarkOf markers line =
          if marker.isPrefixOf (trim line) then .alone expectation else .trailing expectation := by
  unfold remarkOf
  split
  · exact .inl rfl
  · rename_i marker comment found
    split
    · exact .inl rfl
    · rename_i expectation read
      split
      · exact .inl rfl
      · rename_i lists
        exact .inr ⟨marker, comment, expectation, found, read, by simpa using lists, rfl⟩

/-- What a line states is read off it. -/
theorem read_of_stated {markers : List (List Char)} {line : List Char} {expectation : Expectation}
    (states : (remarkOf markers line).stated = some expectation) :
    ∃ comment, Expectation.read comment = .ok expectation := by
  rcases remarkOf_cases markers line with silent | ⟨_, comment, read, _, isRead, _, same⟩
  · simp [silent, Remark.stated] at states
  · rw [same] at states
    split at states <;> cases states <;> exact ⟨comment, isRead⟩

/-- What a line states has not been placed. -/
theorem placeless_of_stated {markers : List (List Char)} {line : List Char}
    {expectation : Expectation} (states : (remarkOf markers line).stated = some expectation) :
    expectation.fromCommentLine = false ∧ expectation.folded = false := by
  obtain ⟨comment, read⟩ := read_of_stated states
  exact Expectation.placeless_of_read read

/-- A line that states something alone is a comment. -/
theorem isCommentLine_of_alone {markers : List (List Char)} {line : List Char}
    {expectation : Expectation} (states : remarkOf markers line = .alone expectation) :
    isCommentLine markers line = true := by
  rcases remarkOf_cases markers line with silent | ⟨marker, _, _, found, _, _, same⟩
  · simp [silent] at states
  · obtain ⟨member, filled⟩ := mem_of_findComment found
    rw [same] at states
    split at states
    · rename_i starts
      exact List.any_eq_true.2 ⟨marker, member, by simp [filled, starts]⟩
    · cases states

/-- No marker occurs in an empty line. -/
theorem findComment_nil (markers : List (List Char)) : findComment markers [] = none := by
  refine List.findSome?_eq_none_iff.2 fun marker _ => ?_
  by_cases empty : marker.isEmpty <;> simp [empty, afterFirst]

/-- An empty line states nothing. -/
theorem remarkOf_nil (markers : List (List Char)) : remarkOf markers [] = .silent := by
  have : trim [] = [] := rfl
  rw [remarkOf, this, findComment_nil]

/-- An empty line is no comment. -/
theorem isCommentLine_nil (markers : List (List Char)) : isCommentLine markers [] = false := by
  refine List.any_eq_false.2 fun marker _ => ?_
  cases marker <;> simp [show trim [] = [] from rfl]

/-! ## One step of the reading -/

/-- What reading a line does to the index: what the line states is placed. -/
theorem expectations_readLine {markers lines : List (List Char)} {file next : FixtureFile}
    {text : List Char} {line : Nat}
    (read : FixtureFile.readLine markers lines file (text, line) = .ok next) :
    next.expectations =
      match remarkOf markers text with
      | .silent => file.expectations
      | .alone expectation =>
        placeExpectation markers lines file.expectations line true expectation
      | .trailing expectation =>
        placeExpectation markers lines file.expectations line false expectation := by
  unfold FixtureFile.readLine at read
  unfold remarkOf
  cases found : findComment markers (trim text) with
  | none =>
    simp only [found] at read ⊢
    cases read
    rfl
  | some pair =>
    obtain ⟨marker, comment⟩ := pair
    simp only [found] at read ⊢
    obtain ⟨expectation, isRead, same⟩ := Runs.map_eq_ok.1 read
    have unchanged : (if line = 1 then { file with mode := file.mode.follow comment }
        else file).expectations = file.expectations := by
      split <;> rfl
    rw [← same, isRead]
    by_cases empty : expectation.details.isEmpty
    · simp [empty, unchanged]
    · by_cases starts : marker.isPrefixOf (trim text) <;> simp [empty, unchanged, starts]

/-- A line whose comment can be read is read. -/
theorem exists_readLine {markers lines : List (List Char)} (file : FixtureFile)
    {text : List Char} (line : Nat)
    (readable : ∀ found ∈ findComment markers (trim text), (Expectation.read found.2).isOk) :
    ∃ next, FixtureFile.readLine markers lines file (text, line) = .ok next := by
  unfold FixtureFile.readLine
  cases found : findComment markers (trim text) with
  | none =>
    simp only [found]
    exact ⟨file, rfl⟩
  | some pair =>
    have isRead := readable pair found
    simp only [found]
    cases read : Expectation.read pair.2 with
    | error fault => simp [read, Except.isOk, Except.toBool] at isRead
    | ok expectation => exact ⟨_, rfl⟩

section Steps

variable (markers lines : List (List Char))

/-- What the index holds after a number of lines were read: the last of them and the one after it
may still change. -/
def placedAfter (count line : Nat) : Option Expectation :=
  if line < count then placed markers lines line
  else if line = count then
    match remarkAt markers lines line with
    | .silent => gathered markers lines line
    | _ => placed markers lines line
  else if line = count + 1 then gathered markers lines line
  else none

/-- What is placed at a line that was read stays. -/
@[simp] theorem placedAfter_of_lt {count line : Nat} (before : line < count) :
    placedAfter markers lines count line = placed markers lines line := by
  rw [placedAfter, if_pos before]

/-- The line that is read last has what it has so far. -/
@[simp] theorem placedAfter_self (count : Nat) :
    placedAfter markers lines count count =
      match remarkAt markers lines count with
      | .silent => gathered markers lines count
      | _ => placed markers lines count := by
  rw [placedAfter, if_neg (Nat.lt_irrefl count), if_pos rfl]

/-- The line after it has what was gathered for it. -/
@[simp] theorem placedAfter_succ (count : Nat) :
    placedAfter markers lines count (count + 1) = gathered markers lines (count + 1) := by
  simp [placedAfter, show ¬ count + 1 < count by omega]

/-- Later lines have nothing yet. -/
@[simp] theorem placedAfter_of_gt {count line : Nat} (after : count + 1 < line) :
    placedAfter markers lines count line = none := by
  simp [placedAfter, show ¬ line < count by omega, show line ≠ count by omega,
    show line ≠ count + 1 by omega]

/-- Outside the text nothing is stated. -/
theorem remarkAt_zero : remarkAt markers lines 0 = .silent := remarkOf_nil markers

/-- Nothing is gathered above the first line. -/
theorem gathered_one : gathered markers lines 1 = none := by
  simp [gathered, pileAbove, remarkAt_zero]

/-- Nothing is gathered below a line that does not state something alone. -/
theorem gathered_succ_of_not_alone {line : Nat}
    (other : ∀ expectation, remarkAt markers lines line ≠ .alone expectation) :
    gathered markers lines (line + 1) = none := by
  unfold gathered pileAbove
  cases states : remarkAt markers lines line with
  | alone expectation => exact absurd states (other expectation)
  | silent => rfl
  | trailing expectation => rfl

/-- What a line states is fresh. -/
theorem fresh_of_stated {line : Nat} {expectation : Expectation}
    (states : (remarkAt markers lines line).stated = some expectation) :
    expectation.Fresh := by
  obtain ⟨comment, read⟩ := read_of_stated states
  exact Expectation.fresh_of_read read

/-- What lies in a pile is stated by a line that states it alone. -/
theorem exists_alone_of_mem_pileAbove {line : Nat} {expectation : Expectation}
    (member : expectation ∈ pileAbove markers lines line) :
    ∃ above, above < line ∧ remarkAt markers lines above = .alone expectation := by
  induction line with
  | zero => simp [pileAbove] at member
  | succ line ih =>
    unfold pileAbove at member
    cases states : remarkAt markers lines line with
    | alone own =>
      rw [states] at member
      rcases List.mem_cons.1 member with rfl | member
      · exact ⟨line, Nat.lt_succ_self line, states⟩
      · obtain ⟨above, before, same⟩ := ih member
        exact ⟨above, Nat.lt_succ_of_lt before, same⟩
    | silent => simp [states] at member
    | trailing own => simp [states] at member

/-- What lies in a pile is fresh. -/
theorem fresh_of_mem_pileAbove {line : Nat} {expectation : Expectation}
    (member : expectation ∈ pileAbove markers lines line) : expectation.Fresh := by
  obtain ⟨above, -, states⟩ := exists_alone_of_mem_pileAbove markers lines member
  exact fresh_of_stated markers lines (by rw [states]; rfl)

/-- What is gathered is fresh. Where it stood is no part of that. -/
theorem fresh_of_gathered {line : Nat} {expectation : Expectation}
    (found : gathered markers lines line = some expectation) : expectation.Fresh := by
  unfold gathered at found
  cases pile : pileAbove markers lines line with
  | nil => simp [pile] at found
  | cons newest older =>
    have members : ∀ member ∈ newest :: older, member.Fresh := fun _ listed =>
      fresh_of_mem_pileAbove markers lines (pile ▸ listed)
    rw [List.forall_mem_cons] at members
    rw [pile] at found
    cases found
    have merged := members.1.foldl_merge members.2
    exact ⟨merged.distinct, merged.inStep, merged.unraised, merged.unmet⟩

/-- What takes in what was gathered is fresh. -/
theorem fresh_takeIn_gathered {expectation : Expectation} (fresh : expectation.Fresh)
    (line : Nat) : (expectation.takeIn (gathered markers lines line)).Fresh := by
  cases found : gathered markers lines line with
  | none => exact fresh
  | some other => exact fresh.merge (fresh_of_gathered markers lines found)

/-- What belongs under a line is fresh. -/
theorem fresh_of_placed {line : Nat} {expectation : Expectation}
    (found : placed markers lines line = some expectation) : expectation.Fresh := by
  unfold placed at found
  cases states : remarkAt markers lines line with
  | alone own => simp [states] at found
  | trailing own =>
    have fresh : own.Fresh := fresh_of_stated markers lines (by rw [states]; rfl)
    rw [states] at found
    simp only at found
    split at found
    · cases found
      have takenIn := fresh_takeIn_gathered markers lines fresh line
      exact ⟨takenIn.distinct, takenIn.inStep, takenIn.unraised, takenIn.unmet⟩
    · cases found
      exact fresh
    · split at found <;> cases found
      · exact fresh_takeIn_gathered markers lines fresh (line - 1)
      · exact fresh
  | silent =>
    rw [states] at found
    simp only at found
    split at found
    · cases found
    · exact fresh_of_gathered markers lines found

/-- Below a line that states something alone, this takes in what was gathered above it. -/
theorem gathered_succ_of_alone {line : Nat} {expectation : Expectation}
    (states : remarkAt markers lines line = .alone expectation) :
    gathered markers lines (line + 1) =
      some { expectation.takeIn (gathered markers lines line) with fromCommentLine := true } := by
  have distinct : expectation.Distinct :=
    (fresh_of_stated markers lines (by rw [states]; rfl)).toDistinct
  have members : ∀ member ∈ pileAbove markers lines line, member.Distinct :=
    fun _ listed => (fresh_of_mem_pileAbove markers lines listed).toDistinct
  unfold gathered
  rw [pileAbove, states]
  simp only
  cases pile : pileAbove markers lines line with
  | nil => rfl
  | cons newest older =>
    simp only [pile, List.mem_cons, forall_eq_or_imp] at members
    have merged := Expectation.merge_foldl_merge distinct members.1 members.2
    rw [← merged]
    rfl

/-- What is gathered comes from comment lines, and no trailing comment has taken it in. -/
theorem flags_of_gathered {line : Nat} {expectation : Expectation}
    (found : gathered markers lines line = some expectation) :
    expectation.fromCommentLine = true ∧ expectation.folded = false := by
  cases line with
  | zero => simp [gathered, pileAbove] at found
  | succ line =>
    cases states : remarkAt markers lines line with
    | alone own =>
      rw [gathered_succ_of_alone markers lines states, Option.some.injEq] at found
      obtain ⟨-, unfolded⟩ := placeless_of_stated (congrArg Remark.stated states)
      rw [← found]
      refine ⟨rfl, ?_⟩
      cases gathered markers lines line <;> exact unfolded
    | silent => simp [gathered_succ_of_not_alone, states] at found
    | trailing own => simp [gathered_succ_of_not_alone, states] at found

/-- The index shows under every line what belongs there after a number of lines were read. -/
structure Holds (count : Nat) (index : LineIndex) : Prop where
  /-- The lines stand in ascending order. -/
  ordered : index.Ordered
  /-- Every line shows what belongs there. -/
  shows : ∀ line, index.get? line = placedAfter markers lines count line

variable {markers lines}

/-- A line that states nothing leaves everything in its place. -/
theorem Holds.silent {count : Nat} {index : LineIndex} (holds : Holds markers lines count index)
    (states : remarkAt markers lines (count + 1) = .silent) :
    Holds markers lines (count + 1) index := by
  refine ⟨holds.ordered, fun line => ?_⟩
  rw [holds.shows]
  rcases Nat.lt_trichotomy line count with before | rfl | after
  · simp [before, Nat.lt_succ_of_lt before]
  · cases own : remarkAt markers lines line <;>
      simp [placed, own, states, Remark.isTrailing]
  · obtain rfl | rfl | later :
        line = count + 1 ∨ line = count + 2 ∨ count + 2 < line := by omega
    · simp [states]
    · simp [gathered_succ_of_not_alone, states]
    · simp [later, show count + 1 < line by omega]

/-- Under the next line lies what is gathered above it. -/
theorem Holds.get?_next {count : Nat} {index : LineIndex}
    (holds : Holds markers lines count index) :
    index.get? (count + 1) = gathered markers lines (count + 1) := by
  rw [holds.shows, placedAfter_succ]

/-- Placing what stands alone: it goes under the next line and takes in what lies under its own. -/
theorem placeExpectation_alone {index : LineIndex} {count : Nat} (expectation : Expectation)
    (free : index.get? (count + 2) = none)
    (loose : ∀ above, index.get? (count + 1) = some above →
      above.fromCommentLine = true ∧ above.folded = false)
    (comment : isCommentLine markers (lineAt lines (count + 1)) = true) :
    placeExpectation markers lines index (count + 1) true expectation =
      (index.erase (count + 1)).set (count + 2)
        { expectation.takeIn (index.get? (count + 1)) with fromCommentLine := true } := by
  rw [lineAt, List.getD_eq_getElem?_getD] at comment
  cases above : index.get? (count + 1) with
  | none =>
    rw [LineIndex.erase_of_absent above]
    simp [placeExpectation, free, above, Expectation.takeIn]
  | some pile =>
    obtain ⟨fromComment, unfolded⟩ := loose pile above
    simp [placeExpectation, free, above, fromComment, unfolded, comment, Expectation.takeIn,
      Expectation.merge]

/-- A comment line goes under the next line and takes in what lies under its own. -/
theorem Holds.alone {count : Nat} {index : LineIndex} (holds : Holds markers lines count index)
    {expectation : Expectation}
    (states : remarkAt markers lines (count + 1) = .alone expectation) :
    Holds markers lines (count + 1)
      (placeExpectation markers lines index (count + 1) true expectation) := by
  have above := holds.get?_next
  rw [placeExpectation_alone expectation (by simp [holds.shows])
    (fun pile found => flags_of_gathered markers lines (above ▸ found))
    (isCommentLine_of_alone states), above]
  refine ⟨(holds.ordered.erase _).set _ _, fun line => ?_⟩
  rw [LineIndex.get?_set, LineIndex.get?_erase, holds.shows]
  rcases Nat.lt_trichotomy line count with before | rfl | after
  · simp [before, Nat.lt_succ_of_lt before, show count + 2 ≠ line by omega,
      show count + 1 ≠ line by omega]
  · cases own : remarkAt markers lines line <;>
      simp [placed, own, states, Remark.isTrailing]
  · obtain rfl | rfl | later :
        line = count + 1 ∨ line = count + 2 ∨ count + 2 < line := by omega
    · simp [states, placed]
    · simp [gathered_succ_of_alone markers lines states]
    · simp [later, show count + 1 < line by omega, show count + 2 ≠ line by omega]

/-- Placing a trailing comment below a line that left nothing behind: it takes in what lies under
its own line. -/
theorem placeExpectation_trailing_onto {index : LineIndex} {count : Nat}
    (expectation : Expectation) (unfolded : expectation.folded = false)
    (gone : index.get? count = none) {pile : Expectation}
    (found : index.get? (count + 1) = some pile) (fromComment : pile.fromCommentLine = true) :
    placeExpectation markers lines index (count + 1) false expectation =
      index.set (count + 1)
        { expectation.merge pile with fromCommentLine := false, folded := true } := by
  simp [placeExpectation, gone, found, fromComment, unfolded, Expectation.merge]

/-- Placing a trailing comment on a line with nothing under it: it takes in, and takes away, what
lies under a comment right above. -/
theorem placeExpectation_trailing_free {index : LineIndex} {count : Nat}
    (expectation : Expectation) (unplaced : expectation.fromCommentLine = false)
    (free : index.get? (count + 1) = none) (first : index.get? 0 = none) :
    placeExpectation markers lines index (count + 1) false expectation =
      match index.get? count with
      | none => index.set (count + 1) expectation
      | some above =>
        if above.fromCommentLine && !above.folded
            && isCommentLine markers (lineAt lines count) then
          (index.erase count).set (count + 1) (expectation.merge above)
        else index.set (count + 1) expectation := by
  have same : { expectation with fromCommentLine := false } = expectation := by
    rw [← unplaced]
  cases count with
  | zero => simp [placeExpectation, free, first, same]
  | succ count =>
    cases above : index.get? (count + 1) <;>
      simp [placeExpectation, free, above, same, lineAt]

/-- What is placed by a trailing comment does not count as coming from a comment line. -/
theorem placed_of_trailing {line : Nat} {expectation : Expectation}
    (states : remarkAt markers lines line = .trailing expectation) :
    ∃ whole, placed markers lines line = some whole ∧ whole.fromCommentLine = false := by
  obtain ⟨unplaced, -⟩ := placeless_of_stated (congrArg Remark.stated states)
  have takenIn : ∀ above, (expectation.takeIn above).fromCommentLine = false := by
    intro above
    cases above <;> exact unplaced
  unfold placed
  rw [states]
  cases remarkAt markers lines (line - 1) with
  | alone head => exact ⟨_, rfl, takenIn _⟩
  | trailing other => exact ⟨_, rfl, unplaced⟩
  | silent =>
    simp only
    split
    · exact ⟨_, rfl, takenIn _⟩
    · exact ⟨_, rfl, unplaced⟩

/-- After a trailing comment only its own line and the one above can have changed. -/
theorem Holds.step_trailing {count : Nat} {index next : LineIndex}
    (holds : Holds markers lines count index) (ordered : next.Ordered) {expectation : Expectation}
    (states : remarkAt markers lines (count + 1) = .trailing expectation)
    (own : next.get? (count + 1) = placed markers lines (count + 1))
    (above : next.get? count = placed markers lines count)
    (others : ∀ line, line ≠ count → line ≠ count + 1 → next.get? line = index.get? line) :
    Holds markers lines (count + 1) next := by
  refine ⟨ordered, fun line => ?_⟩
  rcases Nat.lt_trichotomy line count with before | rfl | after
  · rw [others line (by omega) (by omega), holds.shows, placedAfter_of_lt _ _ before,
      placedAfter_of_lt _ _ (Nat.lt_succ_of_lt before)]
  · rw [above, placedAfter_of_lt _ _ (Nat.lt_succ_self line)]
  · by_cases here : line = count + 1
    · rw [here, own, placedAfter_self, states]
    · rw [others line (by omega) here, holds.shows, placedAfter_of_gt _ _ (by omega)]
      by_cases next : line = count + 2
      · rw [next, placedAfter_succ, gathered_succ_of_not_alone markers lines (by simp [states])]
      · rw [placedAfter_of_gt _ _ (by omega)]

/-- Nothing belongs above the first line. -/
theorem placed_zero : placed markers lines 0 = none := by
  simp [placed, remarkAt_zero, lineAt, isCommentLine_nil, gathered, pileAbove]

/-- Nothing is ever placed above the first line. -/
theorem Holds.get?_zero {count : Nat} {index : LineIndex}
    (holds : Holds markers lines count index) : index.get? 0 = none := by
  rw [holds.shows]
  cases count with
  | zero => simp [remarkAt_zero, gathered, pileAbove]
  | succ count => rw [placedAfter_of_lt _ _ (Nat.succ_pos count), placed_zero]

section Trailing

variable {count : Nat} {index : LineIndex} {expectation : Expectation}

/-- A trailing comment right below a comment that states something takes in what lies there. -/
theorem Holds.trailing_below_alone (holds : Holds markers lines count index)
    (states : remarkAt markers lines (count + 1) = .trailing expectation) {head : Expectation}
    (higher : remarkAt markers lines count = .alone head) :
    Holds markers lines (count + 1)
      (placeExpectation markers lines index (count + 1) false expectation) := by
  obtain ⟨unplaced, unfolded⟩ := placeless_of_stated (congrArg Remark.stated states)
  have pile := gathered_succ_of_alone markers lines higher
  have gone : placed markers lines count = none := by simp [placed, higher]
  have above : index.get? count = none := by
    rw [holds.shows, placedAfter_self, higher]
    exact gone
  rw [placeExpectation_trailing_onto expectation unfolded above (holds.get?_next.trans pile) rfl]
  refine holds.step_trailing (holds.ordered.set _ _) states ?_ ?_ ?_
  · simp [LineIndex.get?_set, placed, states, higher, pile, Expectation.takeIn,
      Expectation.merge, unplaced]
  · simp [LineIndex.get?_set, above, gone]
  · intro line _ other
    simp [LineIndex.get?_set, Ne.symm other]

/-- A trailing comment right below another one takes in nothing. -/
theorem Holds.trailing_below_trailing (holds : Holds markers lines count index)
    (states : remarkAt markers lines (count + 1) = .trailing expectation) {other : Expectation}
    (higher : remarkAt markers lines count = .trailing other) :
    Holds markers lines (count + 1)
      (placeExpectation markers lines index (count + 1) false expectation) := by
  obtain ⟨unplaced, -⟩ := placeless_of_stated (congrArg Remark.stated states)
  obtain ⟨whole, present, notComment⟩ := placed_of_trailing higher
  have free := holds.get?_next.trans
    (gathered_succ_of_not_alone markers lines (by simp [higher]))
  have above : index.get? count = some whole := by
    rw [holds.shows, placedAfter_self, higher]
    exact present
  rw [placeExpectation_trailing_free expectation unplaced free holds.get?_zero, above]
  simp only [notComment, Bool.false_and, Bool.false_eq_true, if_false]
  refine holds.step_trailing (holds.ordered.set _ _) states ?_ ?_ ?_
  · simp [LineIndex.get?_set, placed, states, higher]
  · simp [LineIndex.get?_set, above, present]
  · intro line _ other
    simp [LineIndex.get?_set, Ne.symm other]

/-- A trailing comment below a line that states nothing takes in what lies under that line, if that
is a comment. -/
theorem Holds.trailing_below_silent (holds : Holds markers lines count index)
    (states : remarkAt markers lines (count + 1) = .trailing expectation)
    (higher : remarkAt markers lines count = .silent) :
    Holds markers lines (count + 1)
      (placeExpectation markers lines index (count + 1) false expectation) := by
  obtain ⟨unplaced, -⟩ := placeless_of_stated (congrArg Remark.stated states)
  have free := holds.get?_next.trans
    (gathered_succ_of_not_alone markers lines (by simp [higher]))
  have above : index.get? count = gathered markers lines count := by
    rw [holds.shows, placedAfter_self, higher]
  rw [placeExpectation_trailing_free expectation unplaced free holds.get?_zero, above]
  cases pile : gathered markers lines count with
  | none =>
    refine holds.step_trailing (holds.ordered.set _ _) states ?_ ?_ ?_
    · by_cases isComment : isCommentLine markers (lineAt lines count) <;>
        simp [LineIndex.get?_set, placed, states, higher, isComment, pile, Expectation.takeIn]
    · simp [LineIndex.get?_set, above, placed, higher, pile]
    · intro line _ other
      simp [LineIndex.get?_set, Ne.symm other]
  | some whole =>
    obtain ⟨fromComment, kept⟩ := flags_of_gathered markers lines pile
    by_cases isComment : isCommentLine markers (lineAt lines count)
    · simp only [fromComment, kept, isComment, Bool.not_false, Bool.and_self, if_true]
      refine holds.step_trailing ((holds.ordered.erase _).set _ _) states ?_ ?_ ?_
      · simp [LineIndex.get?_set, placed, states, higher, isComment, pile, Expectation.takeIn]
      · simp [LineIndex.get?_set, LineIndex.get?_erase, placed, states, higher, isComment,
          Remark.isTrailing]
      · intro line before other
        simp [LineIndex.get?_set, LineIndex.get?_erase, Ne.symm other, Ne.symm before]
    · simp only [isComment, Bool.and_false, Bool.false_eq_true, if_false]
      refine holds.step_trailing (holds.ordered.set _ _) states ?_ ?_ ?_
      · simp [LineIndex.get?_set, placed, states, higher, isComment]
      · simp [LineIndex.get?_set, above, placed, higher, isComment, pile]
      · intro line _ other
        simp [LineIndex.get?_set, Ne.symm other]

/-- A trailing comment goes under its own line. What the line above it has left behind decides
what it takes in. -/
theorem Holds.trailing (holds : Holds markers lines count index)
    (states : remarkAt markers lines (count + 1) = .trailing expectation) :
    Holds markers lines (count + 1)
      (placeExpectation markers lines index (count + 1) false expectation) := by
  cases higher : remarkAt markers lines count with
  | alone head => exact holds.trailing_below_alone states higher
  | trailing other => exact holds.trailing_below_trailing states higher
  | silent => exact holds.trailing_below_silent states higher

end Trailing

/-! ## The whole reading -/

/-- Reading one line puts everything where it belongs after that line. -/
theorem Holds.readLine {count : Nat} {file next : FixtureFile} {text : List Char}
    (holds : Holds markers lines count file.expectations) (own : lineAt lines (count + 1) = text)
    (read : FixtureFile.readLine markers lines file (text, count + 1) = .ok next) :
    Holds markers lines (count + 1) next.expectations := by
  have states : remarkAt markers lines (count + 1) = remarkOf markers text := by
    rw [remarkAt, own]
  rw [expectations_readLine read]
  cases kind : remarkOf markers text with
  | silent => exact holds.silent (states.trans kind)
  | alone expectation => exact holds.alone (states.trans kind)
  | trailing expectation => exact holds.trailing (states.trans kind)

/-- Before the first line is read, nothing is placed. -/
theorem holds_nil : Holds markers lines 0 [] := by
  refine ⟨List.Pairwise.nil, fun line => ?_⟩
  rcases line with _ | _ | line
  · simp [LineIndex.get?, remarkAt_zero, gathered, pileAbove]
  · rw [placedAfter_succ, gathered_one]
    rfl
  · rw [placedAfter_of_gt _ _ (by omega)]
    rfl

/-- Reading the lines from some line on puts everything where it belongs after the last. -/
theorem Holds.foldlM {rest : List (List Char)} {count : Nat} {file last : FixtureFile}
    (holds : Holds markers lines count file.expectations) (remaining : lines.drop count = rest)
    (read : (rest.zipIdx (count + 1)).foldlM (FixtureFile.readLine markers lines) file = .ok last) :
    Holds markers lines (count + rest.length) last.expectations := by
  induction rest generalizing count file with
  | nil =>
    cases read
    exact holds
  | cons text rest ih =>
    rw [List.zipIdx_cons, List.foldlM_cons] at read
    obtain ⟨next, stepped, later⟩ := Runs.bind_eq_ok.1 read
    have own : lineAt lines (count + 1) = text := by
      have := congrArg List.head? remaining
      rw [List.head?_drop] at this
      simp [lineAt, this]
    have others : lines.drop (count + 1) = rest := by
      rw [← List.tail_drop, remaining, List.tail_cons]
    rw [List.length_cons, ← Nat.add_assoc, Nat.add_right_comm]
    exact ih (holds.readLine own stepped) others later

/-- Lines whose comments can be read are read. -/
theorem exists_foldlM {rest : List (List Char)} (first : Nat) (file : FixtureFile)
    (readable : Readable markers rest) :
    ∃ last, (rest.zipIdx first).foldlM (FixtureFile.readLine markers lines) file = .ok last := by
  induction rest generalizing first file with
  | nil => exact ⟨file, rfl⟩
  | cons text rest ih =>
    obtain ⟨next, stepped⟩ := exists_readLine file first (readable text List.mem_cons_self)
    obtain ⟨last, later⟩ := ih (first + 1) next fun line member =>
      readable line (List.mem_cons_of_mem text member)
    refine ⟨last, ?_⟩
    rw [List.zipIdx_cons, List.foldlM_cons, stepped]
    exact later

/-- Below the last line there is nothing. -/
theorem lineAt_of_length_lt {line : Nat} (after : lines.length < line) :
    lineAt lines line = [] := by
  cases line with
  | zero => rfl
  | succ line => simp [lineAt, List.getElem?_eq_none (Nat.le_of_lt_succ after)]

/-- Below the last line nothing is stated. -/
theorem remarkAt_of_length_lt {line : Nat} (after : lines.length < line) :
    remarkAt markers lines line = .silent := by
  rw [remarkAt, lineAt_of_length_lt after, remarkOf_nil]

/-- Below the last line only what is gathered there is placed. -/
theorem placed_of_length_lt {line : Nat} (after : lines.length < line) :
    placed markers lines line = gathered markers lines line := by
  simp [placed, remarkAt_of_length_lt after, lineAt_of_length_lt after, isCommentLine_nil]

/-- After the last line everything is where it belongs. -/
theorem placedAfter_length (line : Nat) :
    placedAfter markers lines lines.length line = placed markers lines line := by
  rcases Nat.lt_trichotomy line lines.length with before | rfl | after
  · exact placedAfter_of_lt _ _ before
  · rw [placedAfter_self]
    cases states : remarkAt markers lines lines.length with
    | alone expectation => rfl
    | trailing expectation => rfl
    | silent =>
      have next : remarkAt markers lines (lines.length + 1) = .silent :=
        remarkAt_of_length_lt (Nat.lt_succ_self lines.length)
      simp [placed, states, next, Remark.isTrailing]
  · rw [placed_of_length_lt after]
    by_cases next : line = lines.length + 1
    · rw [next, placedAfter_succ]
    · obtain ⟨above, rfl⟩ : ∃ above, line = above + 1 := ⟨line - 1, by omega⟩
      have silent : remarkAt markers lines above = .silent :=
        remarkAt_of_length_lt (by omega)
      rw [placedAfter_of_gt _ _ (by omega), gathered_succ_of_not_alone _ _ (by simp [silent])]

end Steps

/-- After a fixture was read, everything is where it belongs after its last line. -/
theorem holds_of_ofSource {name content : String} {markers : List String} {file : FixtureFile}
    (read : FixtureFile.ofSource name content markers = .ok file) :
    Holds (markers.map String.toList) (linesOf content) (linesOf content).length
      file.expectations := by
  have start : Holds (markers.map String.toList) (linesOf content) 0
      ({ name := (Path.ofString name).stem } : FixtureFile).expectations := holds_nil
  have holds := start.foldlM List.drop_zero read
  rwa [Nat.zero_add] at holds

/-- A fixture that was read shows under every line what belongs there. -/
theorem get?_expectations_of_ofSource {name content : String} {markers : List String}
    {file : FixtureFile} (read : FixtureFile.ofSource name content markers = .ok file)
    (line : Nat) :
    file.expectations.get? line = placed (markers.map String.toList) (linesOf content) line := by
  rw [(holds_of_ofSource read).shows, placedAfter_length]

/-- The index of a fixture that was read holds what belongs under its lines, and nothing else. -/
theorem expectations_of_ofSource {name content : String} {markers : List String}
    {file : FixtureFile} (read : FixtureFile.ofSource name content markers = .ok file) :
    file.expectations =
      LineIndex.ofLines (placed (markers.map String.toList) (linesOf content)) 1
        ((linesOf content).length + 1) := by
  have holds := holds_of_ofSource read
  refine LineIndex.eq_ofLines _ holds.ordered 1 _ (fun line _ => ?_) fun line outside => ?_
  · exact get?_expectations_of_ofSource read line
  · rcases Nat.eq_zero_or_pos line with rfl | positive
    · rw [get?_expectations_of_ofSource read, placed_zero]
    · rw [holds.shows]
      exact placedAfter_of_gt _ _ (by omega)

/-- A fixture whose comments can be read is read. -/
theorem exists_ofSource (name content : String) (markers : List String)
    (readable : Readable (markers.map String.toList) (linesOf content)) :
    ∃ file, FixtureFile.ofSource name content markers = .ok file :=
  exists_foldlM 1 { name := (Path.ofString name).stem } readable

/-- A fixture whose comments can be read is read, and each of its lines gets the expectation that
belongs there. -/
theorem exists_ofSource_placed (name content : String) (markers : List String)
    (readable : Readable (markers.map String.toList) (linesOf content)) :
    ∃ file, FixtureFile.ofSource name content markers = .ok file ∧
      file.expectations =
        LineIndex.ofLines (placed (markers.map String.toList) (linesOf content)) 1
          ((linesOf content).length + 1) := by
  obtain ⟨file, read⟩ := exists_ofSource name content markers readable
  exact ⟨file, read, expectations_of_ofSource read⟩

/-- Stacked comments, a trailing comment below them, and one below a comment that states nothing. -/
theorem exists_ofSource_placed_stacked :
    Readable (["#"].map String.toList)
        (linesOf "# [A-1]\n# [A-2]: 3\nf() # [A-1]: 5\n# [B-1]\n# so\ng() # [C-1]\n# [D-1]") ∧
      ∃ file, FixtureFile.ofSource "a.py"
          "# [A-1]\n# [A-2]: 3\nf() # [A-1]: 5\n# [B-1]\n# so\ng() # [C-1]\n# [D-1]" ["#"] =
            .ok file ∧
        file.expectations =
          LineIndex.ofLines
            (placed (["#"].map String.toList)
              (linesOf
                "# [A-1]\n# [A-2]: 3\nf() # [A-1]: 5\n# [B-1]\n# so\ng() # [C-1]\n# [D-1]"))
            1 8 :=
  ⟨by decide +kernel, exists_ofSource_placed _ _ _ (by decide +kernel)⟩

end LintBench
