import LintBench.Fixture.Extraction
import LintBench.Proofs.Files.PathText
import Mathlib.Data.List.DropRight
import Mathlib.Data.List.Infix

/-!
# Lines and the comments in them

A line is a part of its text, and a comment is the end of its line: what follows
the first occurrence of its marker, which is the first of the markers that occurs
in the line at all.
-/

namespace LintBench

open Text

/-! ## Lines -/

/-- A trimmed line is the front of the line without the blanks before it. -/
theorem trim_prefix_skipBlanks (line : List Char) : trim line <+: skipBlanks line := by
  rw [trim, dropTrailingBlanks, ← List.reverse_suffix, List.reverse_reverse]
  exact List.dropWhile_suffix isBlank

/-- A trimmed line is a part of the line. -/
theorem trim_infix_self (line : List Char) : trim line <:+: line :=
  (trim_prefix_skipBlanks line).isInfix.trans (List.dropWhile_suffix isBlank).isInfix

/-- A text that has no blank at its ends is left as it is when it is trimmed. -/
theorem trim_of_ends {text : List Char} (first : ∀ c ∈ text.head?, isBlank c = false)
    (last : ∀ c ∈ text.getLast?, isBlank c = false) : trim text = text := by
  have kept : ∀ letters : List Char, (∀ c ∈ letters.head?, isBlank c = false) →
      letters.dropWhile isBlank = letters := by
    intro letters first
    cases letters with
    | nil => rfl
    | cons c rest => simp [first c rfl]
  rw [trim, skipBlanks, kept text first, dropTrailingBlanks, kept text.reverse, List.reverse_reverse]
  simpa using last

/-- A blank at the end of a text is dropped, and nothing is dropped before another character. -/
theorem dropTrailingBlanks_concat (text : List Char) (c : Char) :
    dropTrailingBlanks (text ++ [c]) =
      if isBlank c then dropTrailingBlanks text else text ++ [c] :=
  List.rdropWhile_concat isBlank text c

/-- Trimming drops a blank at the end. -/
theorem trim_concat_of_isBlank {c : Char} (blank : isBlank c = true) (text : List Char) :
    trim (text ++ [c]) = trim text := by
  rw [trim, trim, skipBlanks, skipBlanks, List.dropWhile_append]
  split
  · rename_i nothing
    rw [List.isEmpty_iff.1 nothing]
    simp [blank]
  · rw [dropTrailingBlanks_concat, if_pos blank]

/-- Behind a text that ends with no blank, only blanks at the end of the rest are dropped. -/
theorem dropTrailingBlanks_append {front : List Char}
    (last : ∃ c ∈ front.getLast?, isBlank c = false) (rest : List Char) :
    dropTrailingBlanks (front ++ rest) = front ++ dropTrailingBlanks rest := by
  induction rest using List.reverseRecOn with
  | nil =>
    obtain ⟨c, isLast, notBlank⟩ := last
    obtain ⟨before, rfl⟩ := List.getLast?_eq_some_iff.1 isLast
    rw [List.append_nil, dropTrailingBlanks_concat, notBlank]
    exact (List.append_nil _).symm
  | append_singleton rest c ih =>
    rw [← List.append_assoc, dropTrailingBlanks_concat, dropTrailingBlanks_concat]
    split
    · exact ih
    · exact List.append_assoc front rest [c]

/-- Of a text that neither starts nor ends with a blank and what follows it, only blanks at the end
of the latter are trimmed. -/
theorem trim_append {front : List Char} (first : ∃ c ∈ front.head?, isBlank c = false)
    (last : ∃ c ∈ front.getLast?, isBlank c = false) (rest : List Char) :
    trim (front ++ rest) = front ++ dropTrailingBlanks rest := by
  obtain ⟨c, isFirst, notBlank⟩ := first
  obtain ⟨others, rfl⟩ := List.head?_eq_some_iff.1 isFirst
  have start : skipBlanks (c :: others ++ rest) = c :: others ++ rest := by
    rw [List.cons_append, skipBlanks, List.dropWhile_cons_of_neg (by simp [notBlank])]
  rw [trim, start, dropTrailingBlanks_append last]

/-- A piece is a part of what the pieces are joined to. -/
theorem infix_intercalate (separator : List Char) {pieces : List (List Char)} {piece : List Char}
    (member : piece ∈ pieces) : piece <:+: List.intercalate separator pieces := by
  induction pieces with
  | nil => cases member
  | cons first others ih =>
    cases others with
    | nil =>
      obtain rfl := List.mem_singleton.1 member
      simp
    | cons next others =>
      rw [List.intercalate_cons_cons]
      rcases List.mem_cons.1 member with rfl | later
      · rw [List.append_assoc]
        exact (List.prefix_append _ _).isInfix
      · exact (ih later).trans (List.suffix_append _ _).isInfix

/-- A line of a text is a part of it. -/
theorem infix_of_mem_linesOf {content : String} {line : List Char}
    (member : line ∈ linesOf content) : line <:+: content.toList := by
  obtain ⟨piece, listed, rfl⟩ := List.mem_map.1 member
  have inside := infix_intercalate ['\n'] listed
  rw [intercalate_splitOn] at inside
  refine List.IsInfix.trans ?_ inside
  unfold dropFinal
  split
  · exact (List.dropLast_prefix piece).isInfix
  · exact List.infix_rfl

/-- No line has a line feed in it. -/
theorem not_mem_of_mem_linesOf {content : String} {line : List Char}
    (member : line ∈ linesOf content) : '\n' ∉ line := by
  obtain ⟨piece, listed, rfl⟩ := List.mem_map.1 member
  intro inside
  refine not_mem_of_mem_splitOn listed ?_
  unfold dropFinal at inside
  split at inside
  · exact List.mem_of_mem_dropLast inside
  · exact inside

/-- A text without line ends is one line. -/
theorem linesOf_ofList {line : List Char} (single : '\n' ∉ line)
    (noReturn : line.getLast? ≠ some '\r') : linesOf (String.ofList line) = [line] := by
  rw [linesOf, String.toList_ofList, splitOn_of_not_mem single, List.map_singleton, dropFinal,
    if_neg noReturn]

/-! ## Comments -/

/-- The marker stands before what follows its first occurrence. -/
theorem exists_before_of_afterFirst {marker line comment : List Char}
    (found : afterFirst marker line = some comment) :
    ∃ before, before ++ (marker ++ comment) = line := by
  induction line with
  | nil =>
    unfold afterFirst at found
    split at found
    · rename_i empty
      cases found
      exact ⟨[], by simpa using empty⟩
    · cases found
  | cons c rest ih =>
    unfold afterFirst at found
    split at found
    · rename_i starts
      obtain ⟨after, whole⟩ := List.isPrefixOf_iff_prefix.1 starts
      cases found
      exact ⟨[], by rw [← whole, List.drop_left, List.nil_append]⟩
    · obtain ⟨before, whole⟩ := ih found
      exact ⟨c :: before, by rw [List.cons_append, whole]⟩

/-- What follows the first occurrence of a marker is the end of the text. -/
theorem suffix_of_afterFirst {marker line comment : List Char}
    (found : afterFirst marker line = some comment) : comment <:+ line := by
  obtain ⟨before, whole⟩ := exists_before_of_afterFirst found
  exact ⟨before ++ marker, by rw [List.append_assoc, whole]⟩

/-- A marker that stands at some place in a text is found there or before. -/
theorem exists_afterFirst_append (before marker rest : List Char) :
    ∃ passed, passed <:+: before ++ marker ∧
      afterFirst marker (before ++ (marker ++ rest)) = some (passed ++ rest) := by
  have here : ∀ text : List Char, marker.isPrefixOf text = true →
      afterFirst marker text = some (text.drop marker.length) := by
    intro text starts
    cases text with
    | nil =>
      obtain rfl : marker = [] := List.prefix_nil.1 (List.isPrefixOf_iff_prefix.1 starts)
      rfl
    | cons c text => rw [afterFirst, if_pos starts]
  induction before with
  | nil =>
    refine ⟨[], List.nil_infix, ?_⟩
    rw [List.nil_append, here _ (by simp), List.drop_left, List.nil_append]
  | cons c before ih =>
    by_cases starts : marker.isPrefixOf (c :: before ++ (marker ++ rest)) = true
    · have whole : c :: before ++ (marker ++ rest) = c :: before ++ marker ++ rest := by simp
      refine ⟨(c :: before ++ marker).drop marker.length, (List.drop_suffix _ _).isInfix, ?_⟩
      have enough : marker.length ≤ (c :: before ++ marker).length := by
        simp only [List.length_append, List.length_cons]
        omega
      rw [here _ starts, whole, List.drop_append_of_le_length enough]
    · obtain ⟨passed, inside, found⟩ := ih
      refine ⟨passed, inside.trans (List.suffix_cons c _).isInfix, ?_⟩
      rw [List.cons_append] at starts ⊢
      rw [afterFirst, if_neg starts, found]

/-- A marker is found in a text exactly if it occurs in it. -/
theorem exists_afterFirst_iff {marker line : List Char} :
    (∃ comment, afterFirst marker line = some comment) ↔ marker <:+: line := by
  constructor
  · rintro ⟨comment, found⟩
    obtain ⟨before, whole⟩ := exists_before_of_afterFirst found
    exact ⟨before, comment, by rw [List.append_assoc, whole]⟩
  · rintro ⟨before, rest, rfl⟩
    obtain ⟨passed, -, found⟩ := exists_afterFirst_append before marker rest
    rw [List.append_assoc]
    exact ⟨_, found⟩

/-- A comment is found in a line at the first of the markers that occurs in it, empty ones aside. -/
theorem findComment_eq_some_iff {markers : List (List Char)} {line marker comment : List Char} :
    findComment markers line = some (marker, comment) ↔
      ∃ before after, markers = before ++ marker :: after ∧ marker ≠ [] ∧
        afterFirst marker line = some comment ∧
        ∀ other ∈ before, other ≠ [] → ¬ other <:+: line := by
  have none_iff : ∀ other : List Char,
      (if other.isEmpty then none else (afterFirst other line).map (other, ·)) = none ↔
        (other ≠ [] → ¬ other <:+: line) := by
    intro other
    rw [← exists_afterFirst_iff]
    cases other with
    | nil => simp
    | cons c other => simp [Option.eq_none_iff_forall_not_mem]
  have some_iff : ∀ other : List Char,
      (if other.isEmpty then none else (afterFirst other line).map (other, ·)) =
          some (marker, comment) ↔
        other = marker ∧ marker ≠ [] ∧ afterFirst marker line = some comment := by
    intro other
    cases other with
    | nil =>
      simp only [List.isEmpty_nil, if_true, reduceCtorEq, false_iff]
      rintro ⟨rfl, nonempty, -⟩
      exact nonempty rfl
    | cons c other =>
      simp only [List.isEmpty_cons, Bool.false_eq_true, if_false, Option.map_eq_some_iff,
        Prod.mk.injEq]
      constructor
      · rintro ⟨_, found, rfl, rfl⟩
        exact ⟨rfl, by simp, found⟩
      · rintro ⟨rfl, -, found⟩
        exact ⟨_, found, rfl, rfl⟩
  rw [findComment, List.findSome?_eq_some_iff]
  simp only [none_iff, some_iff]
  constructor
  · rintro ⟨before, _, after, split, ⟨rfl, nonempty, found⟩, earlier⟩
    exact ⟨before, after, split, nonempty, found, earlier⟩
  · rintro ⟨before, after, split, nonempty, found, earlier⟩
    exact ⟨before, marker, after, split, ⟨rfl, nonempty, found⟩, earlier⟩

end LintBench
