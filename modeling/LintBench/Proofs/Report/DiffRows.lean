import LintBench.Proofs.Expectation.Rendering
import LintBench.Proofs.LineDiff.Rows
import LintBench.Report.Printer
import LintBench.Text.Lines
import Mathlib.Data.Nat.Digits.Defs

/-!
# Diffs as they are printed

The pretty printer reads a unified diff line by line and numbers its lines. It
takes a line for the name of a file if three minus or plus signs are at its start.
So it leaves out a line that is taken away and starts with two minus signs, or that
is added and starts with two plus signs, and what follows such a line in its hunk
gets too low a number.
-/

namespace LintBench.LineDiff

open Text

/-! ## Headers of hunks -/

/-- The number that a header gives for the first of some lines; for no lines it is that of the line
before. -/
def firstNumber (start stop : Nat) : Nat := if stop - start = 0 then start else start + 1

/-- How a header goes on after the number of the first of some lines. -/
def countText (start stop : Nat) : List Char :=
  if stop - start = 1 then [] else ',' :: (toString (stop - start)).toList

/-- A range is written as the number of its first line and how many lines it has. -/
theorem toList_rangeText (start stop : Nat) :
    (rangeText start stop).toList = (toString (firstNumber start stop)).toList ++
      countText start stop := by
  unfold rangeText firstNumber countText
  by_cases one : stop - start = 1
  · simp [one]
  · by_cases none : stop - start = 0 <;> simp [none, one, toString]

/-- The digits of a number are taken off in front of something else. -/
theorem takeDigits_toString (number : Nat) {rest : List Char}
    (ends : ∀ c ∈ rest.head?, isDecimalDigit c = false) :
    Pretty.takeDigits ((toString number).toList ++ rest) =
      some ((toString number).toList, rest) := by
  have digits : ∀ c ∈ (toString number).toList, isDecimalDigit c = true :=
    fun _ member => isDecimalDigit_of_mem_column member
  have parted := takeDigits_of_digits digits ends
  rw [takeDigits, Prod.mk.injEq] at parted
  rw [Pretty.takeDigits, parted.1, parted.2]
  simp

/-- The number of the first line is taken off a range in front of a blank. -/
theorem takeDigits_rangeText (start stop : Nat) (rest : List Char) :
    Pretty.takeDigits ((rangeText start stop).toList ++ ' ' :: rest) =
      some ((toString (firstNumber start stop)).toList, countText start stop ++ ' ' :: rest) := by
  rw [toList_rangeText, List.append_assoc]
  refine takeDigits_toString _ ?_
  unfold countText
  split <;> rintro _ ⟨rfl⟩ <;> decide

/-- How many lines a range has is dropped in front of a blank. -/
theorem dropCount_countText (start stop : Nat) (rest : List Char) :
    Pretty.dropCount (countText start stop ++ ' ' :: rest) = ' ' :: rest := by
  unfold countText
  split
  · rfl
  · have blank : ∀ c ∈ (' ' :: rest).head?, isDecimalDigit c = false := by
      rintro _ ⟨rfl⟩
      decide
    rw [List.cons_append, Pretty.dropCount, takeDigits_toString _ blank]
    rfl

/-- A header is read as it was written. -/
theorem hunkStart?_header (shown : Region) :
    Pretty.hunkStart? ("@@ -".toList ++ ((rangeText shown.oldStart shown.oldStop).toList ++
      (" +".toList ++ ((rangeText shown.newStart shown.newStop).toList ++ " @@".toList)))) =
      some ((toString (firstNumber shown.oldStart shown.oldStop)).toList,
        (toString (firstNumber shown.newStart shown.newStop)).toList) := by
  have takeWord : ∀ (word : String) (rest : List Char),
      Pretty.takeWord word (word.toList ++ rest) = some rest := by
    intro word rest
    rw [Pretty.takeWord, if_pos (by simp), ← String.length_toList, List.drop_left]
  have new : ∀ rest : List Char, " +".toList ++ rest = ' ' :: '+' :: rest := fun _ => rfl
  have ended : " @@".toList = ' ' :: "@@".toList := rfl
  rw [Pretty.hunkStart?, takeWord]
  simp only [Option.bind_eq_bind, Option.bind_some]
  rw [new, takeDigits_rangeText]
  simp only [Option.bind_some]
  rw [dropCount_countText, ← new, takeWord]
  simp only [Option.bind_some]
  rw [ended, takeDigits_rangeText]
  simp only [Option.bind_some]
  rw [dropCount_countText]
  rfl

/-- A line that starts with another character than a header is none. -/
theorem hunkStart?_cons {c : Char} (other : c ≠ '@') (rest : List Char) :
    Pretty.hunkStart? (c :: rest) = none := by
  simp [Pretty.hunkStart?, Pretty.takeWord, other.symm]

/-! ## Ends of lines -/

/-- Whether a line has line feeds at its end only, and at most one. -/
def EndsOnce (line : String) : Prop := '\n' ∉ line.toList.dropLast

/-- A line without the ends after it is the line without its line feed, if it has one at most. -/
theorem withoutEnds_eq {line : String} (ends : line.toList.dropLast.getLast? ≠ some '\n') :
    Pretty.withoutEnds line = dropFinal '\n' line.toList := by
  rw [Pretty.withoutEnds]
  rcases List.eq_nil_or_concat line.toList with empty | ⟨front, c, split⟩
  · rw [empty]
    rfl
  · rw [split, List.concat_eq_append] at ends ⊢
    rw [List.dropLast_concat] at ends
    by_cases feed : c = '\n'
    · subst feed
      have kept : front.reverse.dropWhile (· = '\n') = front.reverse := by
        cases reversed : front.reverse with
        | nil => rfl
        | cons d rest =>
          have last : front.getLast? = some d := by
            rw [← List.head?_reverse, reversed]
            rfl
          have other : d ≠ '\n' := by
            rintro rfl
            exact ends last
          simp [other]
      simp [dropFinal, kept]
    · simp [dropFinal, feed]

/-- The lines of a text have a line feed at most at their ends. -/
theorem endsOnce_of_mem_linesWithEnds {text line : List Char} (member : line ∈ linesWithEnds text) :
    EndsOnce (String.ofList line) := by
  rw [EndsOnce, String.toList_ofList]
  fun_induction linesWithEnds text generalizing line with
  | case1 => cases member
  | case2 rest ih =>
    rcases List.mem_cons.1 member with rfl | later
    · decide
    · exact ih later
  | case3 c rest _ ends ih =>
    rcases List.mem_cons.1 member with rfl | later
    · simp
    · exact ih later
  | case4 c rest _ inside none ih =>
    rw [List.mem_singleton.1 member]
    simp
  | case5 c rest _ inside first others split ih =>
    rcases List.mem_cons.1 member with rfl | later
    · have start := ih (split ▸ List.mem_cons_self)
      have other : c ≠ '\n' := by
        rintro rfl
        exact inside (by decide)
      cases first with
      | nil => simp
      | cons d letters => simp_all [Ne.symm other]
    · exact ih (split ▸ List.mem_cons_of_mem first later)

/-! ## What is printed for a row -/

/-- The line that a row is to be printed as: its number, and all of its content. The start of a hunk
is an empty line. -/
def Row.shown : Row → List Piece
  | .start _ => []
  | .removed number line =>
    [styled { letters := some .red } (Pretty.numbered "-" number (dropFinal '\n' line.toList))]
  | .added number line =>
    [styled { letters := some .green } (Pretty.numbered "+" number (dropFinal '\n' line.toList))]
  | .kept number line => [plain (Pretty.numbered " " number (dropFinal '\n' line.toList))]

/-- Whether a row is taken for the name of a file. -/
def Row.looksLikeName : Row → Bool
  | .removed _ line => ['-', '-'].isPrefixOf line.toList
  | .added _ line => ['+', '+'].isPrefixOf line.toList
  | _ => false

/-- Whether the numbers in a row can be read: those of a hunk's first lines may not have too many
digits. -/
def Row.isReadable : Row → Bool
  | .start shown =>
    (toString (firstNumber shown.oldStart shown.oldStop)).length ≤ digitLimit &&
      (toString (firstNumber shown.newStart shown.newStop)).length ≤ digitLimit
  | _ => true

/-- The rows that are printed, with the numbers that they get, where so many old and so many new
lines of the hunk have been left out. -/
def printedRows (oldLeft newLeft : Nat) : List Row → List Row
  | [] => []
  | .start shown :: rest => .start shown :: printedRows 0 0 rest
  | .removed number line :: rest =>
    if (Row.removed number line).looksLikeName then printedRows (oldLeft + 1) newLeft rest
    else .removed (number - oldLeft) line :: printedRows oldLeft newLeft rest
  | .added number line :: rest =>
    if (Row.added number line).looksLikeName then printedRows oldLeft (newLeft + 1) rest
    else .added (number - newLeft) line :: printedRows oldLeft newLeft rest
  | .kept number line :: rest =>
    .kept (number - newLeft) line :: printedRows oldLeft newLeft rest

/-- A marked line without the ends after it. -/
theorem withoutEnds_marked {mark line : String} {c : Char} (marked : mark.toList = [c])
    (other : c ≠ '\n') (ends : EndsOnce line) :
    Pretty.withoutEnds (mark ++ line) = c :: dropFinal '\n' line.toList := by
  have text : (mark ++ line).toList = c :: line.toList := by
    rw [String.toList_append, marked, List.singleton_append]
  rw [withoutEnds_eq, text]
  · cases line.toList with
    | nil => simp [dropFinal, other]
    | cons d letters =>
      rw [dropFinal, dropFinal, List.getLast?_cons_cons]
      split <;> rfl
  · rw [text]
    intro feed
    rw [EndsOnce] at ends
    cases letters : line.toList with
    | nil => simp [letters] at feed
    | cons d rest =>
      rw [letters] at feed ends
      rw [List.dropLast_cons_cons] at feed
      rcases List.mem_cons.1 (List.mem_of_getLast? feed) with same | inside
      · exact other same.symm
      · exact ends inside

/-- Signs at the start of a text do not reach into line feeds at its end. -/
theorem prefix_append_feeds {signs front feeds : List Char} (noFeed : '\n' ∉ signs)
    (all : ∀ c ∈ feeds, c = '\n') : signs <+: front ++ feeds ↔ signs <+: front := by
  refine ⟨fun starts => ?_, fun starts => starts.trans (List.prefix_append front feeds)⟩
  rcases List.prefix_or_prefix_of_prefix starts (List.prefix_append front feeds) with
    short | ⟨more, rfl⟩
  · exact short
  · cases more with
    | nil => simp
    | cons c more =>
      rw [List.prefix_append_right_inj] at starts
      have feed := all c (starts.subset List.mem_cons_self)
      simp [feed] at noFeed

/-- Signs are at the start of a line exactly if they are at that of the line without its line
feed. -/
theorem isPrefixOf_dropFinal {signs : List Char} (noFeed : '\n' ∉ signs) (line : List Char) :
    signs.isPrefixOf (dropFinal '\n' line) = signs.isPrefixOf line := by
  rw [Bool.eq_iff_iff, List.isPrefixOf_iff_prefix, List.isPrefixOf_iff_prefix, dropFinal]
  split
  · rename_i last
    obtain ⟨front, rfl⟩ := List.getLast?_eq_some_iff.1 last
    rw [List.dropLast_concat]
    exact (prefix_append_feeds noFeed (by simp)).symm
  · rfl

/-- What is dropped after a line is line feeds. -/
theorem exists_feeds (line : String) :
    ∃ feeds, line.toList = Pretty.withoutEnds line ++ feeds ∧ ∀ c ∈ feeds, c = '\n' := by
  refine ⟨(line.toList.reverse.takeWhile (· = '\n')).reverse, ?_, fun c member => ?_⟩
  · rw [Pretty.withoutEnds, ← List.reverse_append, List.takeWhile_append_dropWhile,
      List.reverse_reverse]
  · simpa using List.mem_takeWhile_imp (List.mem_reverse.1 member)

/-- The names of the two files are not shown. -/
theorem diffLines_name (place : Pretty.DiffPlace) {signs : String} (name : String)
    (isName : signs = "--- " ∨ signs = "+++ ") (rest : List String) :
    Pretty.diffLines place ((signs ++ name ++ "\n") :: rest) = Pretty.diffLines place rest := by
  obtain ⟨feeds, split, all⟩ := exists_feeds (signs ++ name ++ "\n")
  have starts : ∀ start : List Char, start <+: signs.toList → '\n' ∉ start →
      start.isPrefixOf (Pretty.withoutEnds (signs ++ name ++ "\n")) = true := by
    intro start inside noFeed
    rw [List.isPrefixOf_iff_prefix, ← prefix_append_feeds noFeed all, ← split]
    simp only [String.toList_append, List.append_assoc]
    exact inside.trans (List.prefix_append _ _)
  rw [Pretty.diffLines, Pretty.diffLine]
  rcases isName with rfl | rfl
  · rw [starts ['-', '-', '-'] (by decide) (by decide)]
    rfl
  · rw [starts ['+', '+', '+'] (by decide) (by decide), Bool.or_true]
    rfl

section Lines

variable (place : Pretty.DiffPlace) (number : Nat) {line : String} (ends : EndsOnce line)
include ends

/-- A line that is taken away gets the next old number, unless it is taken for a name. -/
theorem diffLine_removed :
    Pretty.diffLine place (Pretty.withoutEnds (Row.removed number line).text) =
      if (Row.removed number line).looksLikeName then some (place, [])
      else some ({ place with old := place.old + 1 }, [(Row.removed place.old line).shown]) := by
  have name : (Row.removed number line).looksLikeName =
      ['-', '-'].isPrefixOf (dropFinal '\n' line.toList) :=
    (isPrefixOf_dropFinal (by decide) _).symm
  rw [Row.text, withoutEnds_marked (c := '-') rfl (by decide) ends, Pretty.diffLine,
    hunkStart?_cons (by decide), name]
  simp [List.isPrefixOf, Row.shown]

/-- A line that is added gets the next new number, unless it is taken for a name. -/
theorem diffLine_added :
    Pretty.diffLine place (Pretty.withoutEnds (Row.added number line).text) =
      if (Row.added number line).looksLikeName then some (place, [])
      else some ({ place with new := place.new + 1 }, [(Row.added place.new line).shown]) := by
  have name : (Row.added number line).looksLikeName =
      ['+', '+'].isPrefixOf (dropFinal '\n' line.toList) :=
    (isPrefixOf_dropFinal (by decide) _).symm
  rw [Row.text, withoutEnds_marked (c := '+') rfl (by decide) ends, Pretty.diffLine,
    hunkStart?_cons (by decide), name]
  simp [List.isPrefixOf, Row.shown]

/-- A line that is kept gets the next new number. -/
theorem diffLine_kept :
    Pretty.diffLine place (Pretty.withoutEnds (Row.kept number line).text) =
      some (⟨place.old + 1, place.new + 1⟩, [(Row.kept place.new line).shown]) := by
  rw [Row.text, withoutEnds_marked (c := ' ') rfl (by decide) ends, Pretty.diffLine,
    hunkStart?_cons (by decide)]
  simp [List.isPrefixOf, Row.shown]

end Lines

/-- The header of a hunk without its line feed. -/
theorem withoutEnds_start (shown : Region) :
    Pretty.withoutEnds (Row.start shown).text =
      "@@ -".toList ++ ((rangeText shown.oldStart shown.oldStop).toList ++
        (" +".toList ++ ((rangeText shown.newStart shown.newStop).toList ++ " @@".toList))) := by
  generalize isHeader : "@@ -".toList ++ ((rangeText shown.oldStart shown.oldStop).toList ++
    (" +".toList ++ ((rangeText shown.newStart shown.newStop).toList ++ " @@".toList))) = header
  have ended : " @@\n".toList = " @@".toList ++ ['\n'] := rfl
  have text : (Row.start shown).text.toList = header ++ ['\n'] := by
    simp only [Row.text, String.toList_append, ended, ← isHeader, List.append_assoc]
  have last : header.getLast? = some '@' := by
    simp only [← isHeader, ← List.append_assoc]
    exact List.mem_getLast?_append_of_mem_getLast? (by decide)
  rw [withoutEnds_eq, text]
  · simp [dropFinal]
  · rw [text, List.dropLast_concat, last]
    decide

/-- The digits of a number are read unless they are too many. -/
theorem readDigits_toString (number : Nat) :
    readDigits (toString number).toList =
      if (toString number).length ≤ digitLimit then some number else none := by
  split
  · rename_i short
    exact readDigits_column short
  · rename_i long
    rw [readDigits, String.length_toList, if_neg long]

/-- A header that can be read sets the numbers to those of the hunk's first lines; another one stops
the printer. -/
theorem diffLine_start (place : Pretty.DiffPlace) (shown : Region) :
    Pretty.diffLine place (Pretty.withoutEnds (Row.start shown).text) =
      if (Row.start shown).isReadable then
        some (⟨firstNumber shown.oldStart shown.oldStop, firstNumber shown.newStart shown.newStop⟩,
          [(Row.start shown).shown])
      else none := by
  rw [withoutEnds_start, Pretty.diffLine, if_neg (by simp), hunkStart?_header]
  simp only [readDigits_toString, Row.isReadable, Row.shown, Bool.and_eq_true, decide_eq_true_eq]
  by_cases old : (toString (firstNumber shown.oldStart shown.oldStop)).length ≤ digitLimit
  · by_cases new : (toString (firstNumber shown.newStart shown.newStop)).length ≤ digitLimit
    · rw [if_pos old, if_pos new, if_pos ⟨old, new⟩]
      rfl
    · rw [if_pos old, if_neg new, if_neg fun both : _ ∧ _ => new both.2]
      rfl
  · rw [if_neg old, if_neg fun both : _ ∧ _ => old both.1]
    rfl

/-! ## What is printed for a hunk -/

section Hunks

variable {sides : Sides}

/-- Whether the lines of two texts have line feeds at their ends only, and at most one. -/
structure Sides.EndOnce (sides : Sides) : Prop where
  /-- The old lines have. -/
  old : ∀ (place : Nat) line, sides.old[place]? = some line → EndsOnce line
  /-- The new lines have. -/
  new : ∀ (place : Nat) line, sides.new[place]? = some line → EndsOnce line

/-- The printer shows rows that tell some lines if what follows them is shown from wherever it goes
on. It counts from the numbers of the first lines, less the lines that it has left out; where no
line of a side is left to tell, it does not matter what it counts from. -/
theorem Tells.diffLines {oldStop newStop old new : Nat} {body rest : List Row}
    (tells : Tells sides oldStop newStop old new body) (ends : sides.EndOnce)
    (later : ∀ place oldLeft newLeft, Pretty.diffLines place (rest.map Row.text) =
      { written := (printedRows oldLeft newLeft rest).map Row.shown })
    (place : Pretty.DiffPlace) (oldLeft newLeft : Nat)
    (oldCount : old < oldStop → place.old + oldLeft = old + 1)
    (newCount : new < newStop → place.new + newLeft = new + 1) :
    Pretty.diffLines place ((body ++ rest).map Row.text) =
      { written := (printedRows oldLeft newLeft (body ++ rest)).map Row.shown } := by
  induction tells generalizing place oldLeft newLeft with
  | ended => exact later place oldLeft newLeft
  | @removed old new text body line told ih =>
    have counted := oldCount told.le.1
    rw [List.cons_append, List.map_cons, Pretty.diffLines,
      diffLine_removed place _ (ends.old _ _ line), printedRows]
    by_cases name : (Row.removed (old + 1) text).looksLikeName
    · rw [if_pos name, if_pos name]
      exact ih place (oldLeft + 1) newLeft (fun _ => by omega) newCount
    · rw [if_neg name, if_neg name]
      have shown := ih ⟨place.old + 1, place.new⟩ oldLeft newLeft
        (fun _ => by simp only; omega) newCount
      simp only [shown, ← counted, Nat.add_sub_cancel]
      rfl
  | @added old new text body line told ih =>
    have counted := newCount told.le.2
    rw [List.cons_append, List.map_cons, Pretty.diffLines,
      diffLine_added place _ (ends.new _ _ line), printedRows]
    by_cases name : (Row.added (new + 1) text).looksLikeName
    · rw [if_pos name, if_pos name]
      exact ih place oldLeft (newLeft + 1) oldCount fun _ => by omega
    · rw [if_neg name, if_neg name]
      have shown := ih ⟨place.old, place.new + 1⟩ oldLeft newLeft oldCount
        fun _ => by simp only; omega
      simp only [shown, ← counted, Nat.add_sub_cancel]
      rfl
  | @kept old new text body _ line told ih =>
    have oldCounted := oldCount told.le.1
    have newCounted := newCount told.le.2
    have shown := ih ⟨place.old + 1, place.new + 1⟩ oldLeft newLeft
      (fun _ => by simp only; omega) fun _ => by simp only; omega
    rw [List.cons_append, List.map_cons, Pretty.diffLines,
      diffLine_kept place _ (ends.new _ _ line), printedRows]
    simp only [shown, ← newCounted, Nat.add_sub_cancel]
    rfl

/-- The printer shows the rows of a listing whose headers can be read, with the numbers that they
get. -/
theorem IsListing.diffLines {old new : Nat} {rows : List Row}
    (listing : IsListing sides old new rows) (ends : sides.EndOnce)
    (readable : ∀ row ∈ rows, row.isReadable) (place : Pretty.DiffPlace) (oldLeft newLeft : Nat) :
    Pretty.diffLines place (rows.map Row.text) =
      { written := (printedRows oldLeft newLeft rows).map Row.shown } := by
  induction listing generalizing place oldLeft newLeft with
  | ended => rfl
  | unshown _ _ _ ih => exact ih readable place oldLeft newLeft
  | @hunk old new oldStop newStop body rest told _ ih =>
    obtain ⟨header, others⟩ := List.forall_mem_cons.1 readable
    have later := ih (List.forall_mem_append.1 others).2
    have first : ∀ {start stop : Nat}, start < stop → firstNumber start stop + 0 = start + 1 := by
      intro start stop before
      rw [firstNumber, if_neg (by omega)]
    have shown := told.diffLines ends later ⟨firstNumber old oldStop, firstNumber new newStop⟩ 0 0
      first first
    rw [List.map_cons, Pretty.diffLines, diffLine_start, if_pos header, printedRows]
    simp only [shown]
    rfl

/-- The headers of a listing can be read if the texts have not more lines than a numeral can
count. -/
theorem IsListing.isReadable {old new : Nat} {rows : List Row} (listing : IsListing sides old new rows)
    (oldShort : sides.old.size < 10 ^ digitLimit) (newShort : sides.new.size < 10 ^ digitLimit) :
    ∀ row ∈ rows, row.isReadable := by
  have short : ∀ {start stop size : Nat}, start ≤ stop → stop ≤ size → size < 10 ^ digitLimit →
      (toString (firstNumber start stop)).length ≤ digitLimit := by
    intro start stop size before inside few
    have counted : firstNumber start stop ≤ size := by
      unfold firstNumber
      split <;> omega
    exact Nat.repr_length _ digitLimit (by decide) (Nat.lt_of_le_of_lt counted few)
  have told_readable : ∀ {oldStop newStop old new : Nat} {body : List Row},
      Tells sides oldStop newStop old new body → ∀ row ∈ body, row.isReadable := by
    intro _ _ _ _ body tells
    induction tells with
    | ended => simp
    | removed _ _ ih | added _ _ ih | kept _ _ _ ih => exact List.forall_mem_cons.2 ⟨rfl, ih⟩
  induction listing with
  | ended => simp
  | unshown _ _ _ ih => exact ih
  | hunk told later ih =>
    refine List.forall_mem_cons.2 ⟨?_, List.forall_mem_append.2 ⟨told_readable told, ih⟩⟩
    rw [Row.isReadable, Bool.and_eq_true, decide_eq_true_eq, decide_eq_true_eq]
    exact ⟨short told.le.1 later.le.1 oldShort, short told.le.2 later.le.2 newShort⟩

/-- The printer goes through a diff without a fault only if it can read all headers. -/
theorem isReadable_of_fault_eq_none (place : Pretty.DiffPlace) {rows : List Row}
    (whole : (Pretty.diffLines place (rows.map Row.text)).fault = none) :
    ∀ row ∈ rows, row.isReadable := by
  induction rows generalizing place with
  | nil => simp
  | cons row rest ih =>
    rw [List.map_cons, Pretty.diffLines] at whole
    rw [List.forall_mem_cons]
    cases read : Pretty.diffLine place (Pretty.withoutEnds row.text) with
    | none =>
      rw [read] at whole
      cases whole
    | some pair =>
      rw [read] at whole
      refine ⟨?_, ih pair.1 whole⟩
      cases row with
      | start shown =>
        by_contra unreadable
        rw [diffLine_start, if_neg unreadable] at read
        cases read
      | removed | added | kept => rfl

end Hunks

/-! ## Rows that are left out -/

/-- As many rows are printed as are not taken for names. -/
theorem length_printedRows (oldLeft newLeft : Nat) (rows : List Row) :
    (printedRows oldLeft newLeft rows).length + rows.countP Row.looksLikeName = rows.length := by
  induction rows generalizing oldLeft newLeft with
  | nil => rfl
  | cons row rest ih =>
    rw [List.countP_cons, List.length_cons]
    cases row with
    | start | kept =>
      rw [printedRows, List.length_cons, Nat.add_right_comm, ← ih]
      rfl
    | removed | added =>
      rw [printedRows]
      split
      · rw [← Nat.add_assoc, ih]
      · have others := ih oldLeft newLeft
        rw [List.length_cons]
        omega

/-- If no row is taken for a name, the rows are printed with their own numbers. -/
theorem printedRows_zero {rows : List Row} (none : ∀ row ∈ rows, row.looksLikeName = false) :
    printedRows 0 0 rows = rows := by
  induction rows with
  | nil => rfl
  | cons row rest ih =>
    obtain ⟨own, others⟩ := List.forall_mem_cons.1 none
    cases row <;> simp [printedRows, own, ih others]

/-- The rows are printed in full exactly if no row is taken for a name. -/
theorem shown_printedRows_iff {rows : List Row} :
    (printedRows 0 0 rows).map Row.shown = rows.map Row.shown ↔
      ∀ row ∈ rows, row.looksLikeName = false := by
  constructor
  · intro same
    have lengths := congrArg List.length same
    rw [List.length_map, List.length_map] at lengths
    have count := length_printedRows 0 0 rows
    have none : rows.countP Row.looksLikeName = 0 := by omega
    simpa using List.countP_eq_zero.1 none
  · intro none
    rw [printedRows_zero none]

/-! ## Whole diffs -/

/-- The lines of a text, each with its end. -/
def textLines (text : String) : List String := (linesWithEnds text.toList).map String.ofList

/-- Two texts by their lines. -/
def textSides (old new : String) : Sides := ⟨(textLines old).toArray, (textLines new).toArray⟩

/-- The lines of two texts have line feeds at their ends only. -/
theorem endOnce_textSides (old new : String) : (textSides old new).EndOnce := by
  have ends : ∀ (text : String) (place : Nat) (line : String),
      (textLines text).toArray[place]? = some line → EndsOnce line := by
    intro text place line found
    rw [List.getElem?_toArray] at found
    obtain ⟨letters, member, rfl⟩ := List.mem_map.1 (List.mem_of_getElem? found)
    exact endsOnce_of_mem_linesWithEnds member
  exact ⟨ends old, ends new⟩

/-- Of a unified diff, the printer reads the rows. -/
theorem diffLines_unified (oldName newName : String) (old new : List String)
    (place : Pretty.DiffPlace) :
    Pretty.diffLines place (unified oldName newName old new) =
      Pretty.diffLines place ((diffRows ⟨old.toArray, new.toArray⟩).map Row.text) := by
  rw [unified_eq]
  split
  · rename_i none
    rw [none]
    rfl
  · rw [diffLines_name place oldName (.inl rfl), diffLines_name place newName (.inr rfl)]

/-- What the pretty printer writes for the unified diff of two texts. -/
def printedDiff (base : Path) (named : List String) (file oldName newName old new : String) :
    Pretty.Lines :=
  (Pretty.lines base named
    (.diff file (unified oldName newName (textLines old) (textLines new)))).1

/-- The name of a file and rows below it, each of them with its number and all of its content. -/
def fullListing (file : String) (rows : List Row) : Pretty.Lines :=
  { written := [] :: Pretty.fileLine file :: rows.map Row.shown }

/-- The diff of two texts lists the lines that are taken away, added and kept in order, each once
and with its true number. The pretty printer shows all of it exactly if it can read the headers and
takes no row for the name of a file. It leaves out the rows that it takes for names, and what comes
after one in its hunk gets a number that is too low by one, if it is counted on the same side. -/
theorem diff_printed_in_full_iff (base : Path) (named : List String)
    (file oldName newName old new : String) :
    (IsListing (textSides old new) 0 0 (diffRows (textSides old new)) ∧
      unified oldName newName (textLines old) (textLines new) =
        if diffRows (textSides old new) = [] then []
        else ("--- " ++ oldName ++ "\n") :: ("+++ " ++ newName ++ "\n") ::
          (diffRows (textSides old new)).map Row.text) ∧
    (Ascends 0 (textLines old).length
        ((diffRows (textSides old new)).filterMap Row.oldNumber?) ∧
      Ascends 0 (textLines new).length
        ((diffRows (textSides old new)).filterMap Row.newNumber?) ∧
      ∀ row ∈ diffRows (textSides old new), row.IsTrue (textSides old new)) ∧
    (printedDiff base named file oldName newName old new =
        fullListing file (diffRows (textSides old new)) ↔
      ∀ row ∈ diffRows (textSides old new), row.isReadable = true ∧ row.looksLikeName = false) ∧
    ((∀ row ∈ diffRows (textSides old new), row.isReadable) →
      printedDiff base named file oldName newName old new =
        fullListing file (printedRows 0 0 (diffRows (textSides old new)))) ∧
    ((textLines old).length < 10 ^ digitLimit → (textLines new).length < 10 ^ digitLimit →
      ∀ row ∈ diffRows (textSides old new), row.isReadable) := by
  have listing := isListing_diffRows (textSides old new)
  have written : printedDiff base named file oldName newName old new =
      { Pretty.diffLines {} ((diffRows (textSides old new)).map Row.text) with
        written := [] :: Pretty.fileLine file ::
          (Pretty.diffLines {} ((diffRows (textSides old new)).map Row.text)).written } := by
    rw [printedDiff, Pretty.lines, diffLines_unified]
    rfl
  have printed : (∀ row ∈ diffRows (textSides old new), row.isReadable) →
      printedDiff base named file oldName newName old new =
        fullListing file (printedRows 0 0 (diffRows (textSides old new))) := by
    intro readable
    rw [written, listing.diffLines (endOnce_textSides old new) readable {} 0 0]
    rfl
  refine ⟨⟨listing, unified_eq oldName newName _ _⟩, by simpa [textSides] using listing.numbers,
    ?_, printed, fun oldShort newShort => listing.isReadable oldShort newShort⟩
  constructor
  · intro whole
    have readable : ∀ row ∈ diffRows (textSides old new), row.isReadable := by
      refine isReadable_of_fault_eq_none {} ?_
      have fault := congrArg Pretty.Lines.fault whole
      rwa [written] at fault
    have same := congrArg Pretty.Lines.written ((printed readable).symm.trans whole)
    simp only [fullListing, List.cons.injEq, true_and] at same
    exact fun row member => ⟨readable row member, shown_printedRows_iff.1 same row member⟩
  · intro plain
    rw [printed fun row member => (plain row member).1,
      printedRows_zero fun row member => (plain row member).2]

/-- A changed line with a line before it, all of which is printed. -/
theorem diff_printed_in_full_changed_line :
    (textLines "a\nb\n").length < 10 ^ digitLimit ∧
      (textLines "a\n-- c\n").length < 10 ^ digitLimit ∧
      (∀ row ∈ diffRows (textSides "a\nb\n" "a\n-- c\n"), row.isReadable) ∧
      printedDiff {} [] "a.py" "a.py" "a.py.golden" "a\nb\n" "a\n-- c\n" =
        fullListing "a.py"
          [.start ⟨0, 2, 0, 2⟩, .kept 1 "a\n", .removed 2 "b\n", .added 2 "-- c\n"] := by
  have rows : diffRows (textSides "a\nb\n" "a\n-- c\n") =
      [.start ⟨0, 2, 0, 2⟩, .kept 1 "a\n", .removed 2 "b\n", .added 2 "-- c\n"] := by
    decide +kernel
  have few : ∀ text : String, (textLines text).length = 2 →
      (textLines text).length < 10 ^ digitLimit := by
    intro text two
    rw [two]
    exact Nat.lt_trans (by decide : 2 < digitLimit) (Nat.lt_pow_self (by decide))
  have oldFew := few "a\nb\n" (by decide +kernel)
  have newFew := few "a\n-- c\n" (by decide +kernel)
  obtain ⟨-, -, -, printed, readable⟩ :=
    diff_printed_in_full_iff {} [] "a.py" "a.py" "a.py.golden" "a\nb\n" "a\n-- c\n"
  have canRead := readable oldFew newFew
  refine ⟨oldFew, newFew, canRead, (printed canRead).trans ?_⟩
  rw [rows]
  rfl

/-- Two lines that are not in the golden text, one of which starts with two minus signs. -/
def dashedLine : String := "-- x\ny\nz\n"

/-- A line that is taken away and starts with two minus signs is not printed, and the next one gets
its number. -/
theorem dashed_line_is_not_printed :
    diffRows (textSides dashedLine "z\n") =
        [.start ⟨0, 3, 0, 1⟩, .removed 1 "-- x\n", .removed 2 "y\n", .kept 1 "z\n"] ∧
      (printedDiff {} [] "a.lua" "a.lua" "a.lua.golden" dashedLine "z\n").written =
        [[], Pretty.fileLine "a.lua", [], (Row.removed 1 "y\n").shown, (Row.kept 1 "z\n").shown] :=
  ⟨by decide +kernel, by decide +kernel⟩

end LintBench.LineDiff
