import LintBench.Proofs.Expectation.Parting
import LintBench.Proofs.Expectation.Rendering

/-!
# When a comment is not read

Whatever a comment holds, there is one thing that stops its reading: a column with
more digits than a numeral may have, in a detail list that is read at all. All
parts that the reader looks at are parts of the comment as it is written, so a
comment without such a run of digits is always read.
-/

namespace LintBench

open Text

/-! ## Parts of a comment -/

/-- A segment is the one that was begun, gone on with, or else a part of the text. -/
theorem infix_of_mem_splitSegments {text current segment : List Char}
    (member : segment ∈ splitSegments text current) : segment <:+: current.reverse ++ text := by
  have parted : ∀ {current rest : List Char} (mark : Char),
      (segment ∈ splitSegments rest [] → segment <:+: [].reverse ++ rest) →
      segment ∈ (if current.isEmpty then splitSegments rest []
        else current.reverse :: splitSegments rest []) →
      segment <:+: current.reverse ++ mark :: rest := by
    intro current rest mark later member
    have cases : segment = current.reverse ∨ segment ∈ splitSegments rest [] := by
      split at member
      · exact .inr member
      · exact List.mem_cons.1 member
    rcases cases with rfl | member
    · exact (List.prefix_append _ _).isInfix
    · refine (later member).trans ⟨current.reverse ++ [mark], [], ?_⟩
      simp
  induction text, current using splitSegments.induct with
  | case1 current =>
    rw [splitSegments_nil] at member
    split at member <;> simp_all
  | case2 current rest ih => exact parted ';' ih (by rwa [splitSegments_semicolon] at member)
  | case3 current rest inner after found ih =>
    rw [splitSegments_quoted found] at member
    obtain ⟨-, rfl⟩ := quotable_of_closeQuote found
    simpa using ih member
  | case4 current rest unclosed ih =>
    exact parted '"' ih (by rwa [splitSegments_unclosed unclosed] at member)
  | case5 current c rest notSemicolon notQuote ih =>
    rw [splitSegments_plain notSemicolon notQuote] at member
    simpa using ih member

/-- A segment of a comment is a part of it. -/
theorem infix_of_mem_segments {comment segment : List Char} (member : segment ∈ segments comment) :
    segment <:+: comment := infix_of_mem_splitSegments member

/-- What follows the code of a segment is the end of the segment. -/
theorem suffix_of_findCode {segment code after : List Char}
    (found : findCode segment = some (code, after)) : after <:+ segment := by
  obtain ⟨-, lead, rfl⟩ := parts_of_findCode found
  exact ⟨lead ++ '[' :: (code ++ [']']), by simp⟩

/-- Skipping blanks leaves the end of a text. -/
theorem skipBlanks_suffix (text : List Char) : skipBlanks text <:+ text :=
  List.dropWhile_suffix isBlank

/-- A detail list is the end of what follows a code. -/
theorem detailText_suffix (after : List Char) : detailText after <:+ after := by
  unfold detailText
  split
  · rename_i text colon
    exact (colon ▸ List.suffix_cons ':' text).trans (skipBlanks_suffix after)
  · exact List.nil_suffix

/-- What follows a quoted text is the end of the text that it is read from. -/
theorem suffix_of_takeQuoted {text message after : List Char}
    (taken : takeQuoted text = some (message, after)) : after <:+ text := by
  unfold takeQuoted at taken
  split at taken
  · rename_i rest
    obtain ⟨-, rfl⟩ := quotable_of_closeQuote taken
    exact ⟨'"' :: (message ++ ['"']), by simp⟩
  · cases taken

/-- Whether digits stand in a row in a text. -/
structure IsRunIn (digits text : List Char) : Prop where
  /-- They are a part of the text. -/
  inside : digits <:+: text
  /-- They are digits. -/
  digits : ∀ c ∈ digits, isDecimalDigit c = true

/-- Digits in a part of a text stand in the text. -/
theorem IsRunIn.trans {digits part text : List Char} (run : IsRunIn digits part)
    (inside : part <:+: text) : IsRunIn digits text := ⟨run.inside.trans inside, run.digits⟩

/-- Digits that are taken off a text stand in it, and what follows them is its end. -/
theorem takeDigits_parts (text : List Char) :
    IsRunIn (takeDigits text).1 text ∧ (takeDigits text).2 <:+ text :=
  ⟨⟨(List.takeWhile_prefix _).isInfix, fun _ member => List.mem_takeWhile_imp member⟩,
    List.dropWhile_suffix _⟩

/-- The digits of an item's column stand in the text that the item is read from, and what follows
the item is the end of it. -/
theorem parts_of_takeItem {text rest : List Char} {item : DetailItem}
    (taken : takeItem text = some (item, rest)) : IsRunIn item.column text ∧ rest <:+ text := by
  have start := skipBlanks_suffix text
  obtain ⟨front, behind⟩ := takeDigits_parts (skipBlanks text)
  have column := front.trans start.isInfix
  have after := behind.trans start
  simp only [takeItem] at taken
  split at taken
  · split at taken
    · rename_i message afterQuote quoted
      cases taken
      have quote := (suffix_of_takeQuoted quoted).trans (skipBlanks_suffix _)
      exact ⟨column, (skipBlanks_suffix _).trans (quote.trans after)⟩
    · cases taken
      exact ⟨column, (skipBlanks_suffix _).trans after⟩
  · obtain ⟨⟨message, afterQuote⟩, quoted, same⟩ := Option.map_eq_some_iff.1 taken
    have quote := (skipBlanks_suffix afterQuote).trans ((suffix_of_takeQuoted quoted).trans start)
    obtain ⟨later, last⟩ := takeDigits_parts (skipBlanks afterQuote)
    dsimp only at same
    split at same
    · cases same
      exact ⟨⟨List.nil_infix, by simp⟩, quote⟩
    · cases same
      exact ⟨later.trans quote.isInfix, (skipBlanks_suffix _).trans (last.trans quote)⟩

/-- The digits of the columns of a detail list stand in it. -/
theorem isRunIn_of_mem_detailItems {text : List Char} {item : DetailItem}
    (member : item ∈ detailItems text) : IsRunIn item.column text := by
  induction text using detailItems.induct with
  | case1 text none =>
    rw [detailItems] at member
    split at member <;> simp_all
  | case2 text first rest taken ih =>
    obtain ⟨column, after⟩ := parts_of_takeItem taken
    rw [detailItems_comma taken] at member
    rcases List.mem_cons.1 member with rfl | later
    · exact column
    · exact (ih later).trans ((List.suffix_cons _ _).trans after).isInfix
  | case3 text first rest last taken =>
    have ends : ∀ c ∈ rest.head?, c ≠ ',' := by
      rintro _ comma rfl
      obtain ⟨others, rfl⟩ := List.head?_eq_some_iff.1 comma
      exact last others rfl
    rw [detailItems_last taken ends] at member
    obtain rfl := List.mem_singleton.1 member
    exact (parts_of_takeItem taken).1

/-! ## Columns that are too long -/

/-- Whether a column is read in a segment that has more digits than a numeral may have. -/
def SegmentHasLongColumn (segment : List Char) : Prop :=
  ∃ code after, findCode segment = some (code, after) ∧
    ∃ item ∈ detailItems (detailText after), digitLimit < item.column.length

/-- Whether a column is read in a comment that has more digits than a numeral may have. -/
def HasLongColumn (comment : List Char) : Prop :=
  ∃ segment ∈ segments comment, SegmentHasLongColumn segment

/-- Whether more digits stand in a row in a text than a numeral may have. -/
def HasLongNumeral (text : List Char) : Prop :=
  ∃ digits, IsRunIn digits text ∧ digitLimit < digits.length

/-- More digits in a row in a part of a text stand in a row in the text. -/
theorem HasLongNumeral.of_infix {part text : List Char} (long : HasLongNumeral part)
    (inside : part <:+: text) : HasLongNumeral text := by
  obtain ⟨digits, run, more⟩ := long
  exact ⟨digits, run.trans inside, more⟩

/-- Digits that stand in a row in a text with something else in it stand on one side of that. -/
theorem HasLongNumeral.of_parted {before after : List Char} {mark : Char}
    (other : isDecimalDigit mark = false) (long : HasLongNumeral (before ++ mark :: after)) :
    HasLongNumeral before ∨ HasLongNumeral after := by
  obtain ⟨digits, ⟨inside, all⟩, more⟩ := long
  have absent : mark ∉ digits := by
    intro member
    rw [all mark member] at other
    cases other
  have reach : ∀ text : List Char, digits <+: text ++ mark :: after → digits <+: text := by
    intro text starts
    rcases List.prefix_or_prefix_of_prefix starts (List.prefix_append text _) with short | ⟨rest, rfl⟩
    · exact short
    · rw [List.prefix_append_right_inj] at starts
      rcases List.prefix_cons_iff.1 starts with rfl | ⟨others, rfl, -⟩
      · simp
      · exact absurd (List.mem_append_right text List.mem_cons_self) absent
  suffices parted : digits <:+: before ∨ digits <:+: after from
    parted.imp (fun left => ⟨digits, ⟨left, all⟩, more⟩) fun right => ⟨digits, ⟨right, all⟩, more⟩
  induction before with
  | nil =>
    rcases List.infix_cons_iff.1 inside with starts | later
    · exact .inl (reach [] starts).isInfix
    · exact .inr later
  | cons c before ih =>
    rcases List.infix_cons_iff.1 inside with starts | later
    · exact .inl (reach (c :: before) starts).isInfix
    · exact (ih later).imp_left fun left => left.trans (List.suffix_cons c before).isInfix

/-- A text that is no longer than a numeral may be has no longer one in it. -/
theorem not_hasLongNumeral_of_length_le {text : List Char} (short : text.length ≤ digitLimit) :
    ¬ HasLongNumeral text := fun ⟨_, run, long⟩ =>
  Nat.not_lt.2 short (Nat.lt_of_lt_of_le long run.inside.length_le)

/-- A column that is too long is a row of too many digits in the comment. -/
theorem HasLongColumn.hasLongNumeral {comment : List Char} (long : HasLongColumn comment) :
    HasLongNumeral comment := by
  obtain ⟨segment, member, code, after, found, item, listed, more⟩ := long
  have list := ((detailText_suffix after).trans (suffix_of_findCode found)).isInfix
  exact ⟨item.column,
    (isRunIn_of_mem_detailItems listed).trans (list.trans (infix_of_mem_segments member)), more⟩

/-- An item states no detail exactly if its column is too long. -/
theorem detail_fails_iff {item : DetailItem} :
    (∃ fault, item.detail = .error fault) ↔ digitLimit < item.column.length := by
  unfold DetailItem.detail readDigits
  split
  · rename_i column found
    split at found
    · rename_i short
      simp [Nat.not_lt.2 short]
    · cases found
  · rename_i long
    split at long
    · cases long
    · rename_i more
      exact iff_of_true ⟨_, rfl⟩ (Nat.lt_of_not_le more)

/-- A detail list is not read exactly if a column in it is too long. -/
theorem readDetails_fails_iff {text : List Char} :
    (∃ fault, readDetails text = .error fault) ↔
      ∃ item ∈ detailItems text, digitLimit < item.column.length := by
  simp only [← detail_fails_iff]
  exact Runs.mapM_fails_iff

namespace Expectation

/-- A segment is not added exactly if a column in it is too long, whatever was added before. -/
theorem addSegment_fails_iff (expectation : Expectation) (segment : List Char) :
    (∃ fault, expectation.addSegment segment = .error fault) ↔ SegmentHasLongColumn segment := by
  unfold addSegment SegmentHasLongColumn
  cases findCode segment with
  | none => simp
  | some found =>
    obtain ⟨code, after⟩ := found
    simp only [Option.some.injEq, Prod.mk.injEq, and_assoc, exists_eq_left', exists_and_left]
    rw [← readDetails_fails_iff]
    cases readDetails (detailText after) <;> simp [Except.map]

/-- A comment is not read exactly if a column in it is too long. -/
theorem read_fails_iff {comment : List Char} :
    (∃ fault, read comment = .error fault) ↔ HasLongColumn comment :=
  Runs.foldlM_fails_iff addSegment_fails_iff

/-- A comment is read exactly if no column in it is too long. -/
theorem exists_read_iff {comment : List Char} :
    (∃ expectation, read comment = .ok expectation) ↔ ¬ HasLongColumn comment := by
  rw [← read_fails_iff, Runs.exists_ok_iff]

end Expectation

/-- A code in brackets with a column of too many digits, as the whole of a comment. -/
theorem hasLongColumn_of_digits {digits : List Char} (all : ∀ c ∈ digits, isDecimalDigit c = true)
    (long : digitLimit < digits.length) : HasLongColumn ("[A-1]: ".toList ++ digits) := by
  have absent : ∀ c : Char, isDecimalDigit c = false → c ∉ digits := by
    intro c other member
    rw [all c member] at other
    cases other
  have unsplit : Unsplit ("[A-1]: ".toList ++ digits) :=
    (unsplit_of_plain (by decide) (by decide)).append
      (unsplit_of_plain (absent ';' (by decide)) (absent '"' (by decide)))
  have whole : segments ("[A-1]: ".toList ++ digits) = ["[A-1]: ".toList ++ digits] := by
    have ended := unsplit [] []
    rw [List.append_nil, List.append_nil, splitSegments_nil] at ended
    rw [segments, ended]
    simp
  have isCode : IsCode "A-1".toList := (isIssueCode_iff_isCode "A-1").1 (by decide +kernel)
  have nonempty : digits ≠ [] := by
    rintro rfl
    cases long
  have ends : EndsItem [] := by simp [EndsItem, skipBlanks]
  have item : takeItem (' ' :: digits) = some ({ column := digits }, []) := by
    have alone := takeItem_column nonempty all ends
    rw [List.append_nil] at alone
    rw [← takeItem_skipBlanks, show skipBlanks (' ' :: digits) = skipBlanks digits from rfl,
      takeItem_skipBlanks, alone]
    rfl
  have listed : detailItems (detailText (':' :: ' ' :: digits)) = [{ column := digits }] :=
    detailItems_last item (by simp)
  refine ⟨_, by rw [whole]; exact List.mem_singleton_self _, "A-1".toList, ':' :: ' ' :: digits,
    findCode_of_isCode List.not_mem_nil isCode _, { column := digits }, ?_, long⟩
  rw [listed]
  exact List.mem_singleton_self _

end LintBench
