import LintBench.Expectation.Printer
import Mathlib.Data.List.Basic

/-!
# Passing over texts whole

The splitter looks at one character after another and keeps what it has read of
the present segment. A text without semicolons and quotes goes into that segment
as it is, and so does a quoted text that closes, with whatever stands in it.
-/

namespace LintBench

/-! ## The steps of the splitter -/

/-- A segment that was begun ends with the comment. -/
theorem splitSegments_nil (current : List Char) :
    splitSegments [] current = if current.isEmpty then [] else [current.reverse] := by
  rw [splitSegments]

/-- A semicolon ends the segment that was begun. -/
theorem splitSegments_semicolon (rest current : List Char) :
    splitSegments (';' :: rest) current =
      if current.isEmpty then splitSegments rest []
      else current.reverse :: splitSegments rest [] := by
  rw [splitSegments]

/-- A quoted text that closes goes into the segment. -/
theorem splitSegments_quoted {rest inner after : List Char}
    (closed : closeQuote rest = some (inner, after)) (current : List Char) :
    splitSegments ('"' :: rest) current =
      splitSegments after ('"' :: inner.reverse ++ '"' :: current) := by
  rw [splitSegments]
  split
  · rename_i found
    rw [closed, Option.some.injEq, Prod.mk.injEq] at found
    obtain ⟨rfl, rfl⟩ := found
    rfl
  · rename_i found
    rw [closed] at found
    cases found

/-- A quote that is never closed ends the segment that was begun. -/
theorem splitSegments_unclosed {rest : List Char} (unclosed : closeQuote rest = none)
    (current : List Char) :
    splitSegments ('"' :: rest) current =
      if current.isEmpty then splitSegments rest []
      else current.reverse :: splitSegments rest [] := by
  rw [splitSegments]
  split
  · rename_i found
    rw [unclosed] at found
    cases found
  · rfl

/-- Any other character goes into the segment. -/
theorem splitSegments_plain {c : Char} (notSemicolon : c ≠ ';') (notQuote : c ≠ '"')
    (rest current : List Char) :
    splitSegments (c :: rest) current = splitSegments rest (c :: current) := by
  rw [splitSegments]
  · exact notSemicolon
  · exact notQuote

/-! ## Texts that go into one segment -/

/-- A text that goes into the segment that was begun, whatever stands before and after it. -/
def Unsplit (text : List Char) : Prop :=
  ∀ rest current, splitSegments (text ++ rest) current = splitSegments rest (text.reverse ++ current)

/-- The empty text goes into any segment. -/
theorem unsplit_nil : Unsplit [] := fun _ _ => rfl

/-- Two texts in a row go into one segment if both do. -/
theorem Unsplit.append {first second : List Char} (unsplit : Unsplit first)
    (unsplitSecond : Unsplit second) : Unsplit (first ++ second) := by
  intro rest current
  rw [List.append_assoc, unsplit, unsplitSecond, List.reverse_append, List.append_assoc]

/-- A text without semicolons and quotes goes into one segment. -/
theorem unsplit_of_plain {text : List Char} (noSemicolon : ';' ∉ text) (noQuote : '"' ∉ text) :
    Unsplit text := by
  induction text with
  | nil => exact unsplit_nil
  | cons c text ih =>
    simp only [List.mem_cons, not_or] at noSemicolon noQuote
    intro rest current
    rw [List.cons_append, splitSegments_plain (Ne.symm noSemicolon.1) (Ne.symm noQuote.1),
      ih noSemicolon.2 noQuote.2]
    simp

/-- What joins texts that go into one segment goes into it too. -/
theorem unsplit_intercalate {separator : List Char} (unsplit : Unsplit separator)
    {texts : List (List Char)} (all : ∀ text ∈ texts, Unsplit text) :
    Unsplit (List.intercalate separator texts) := by
  induction texts with
  | nil => exact unsplit_nil
  | cons text texts ih =>
    simp only [List.forall_mem_cons] at all
    cases texts with
    | nil => simpa using all.1
    | cons next texts =>
      rw [List.intercalate_cons_cons]
      exact (all.1.append unsplit).append (ih all.2)

/-! ## Quoted messages -/

/-- An escaped message closes at the quote after it. -/
theorem closeQuote_escapeMessage (message rest : List Char) :
    closeQuote (escapeMessage message ++ '"' :: rest) = some (escapeMessage message, rest) := by
  induction message with
  | nil => rfl
  | cons c message ih =>
    by_cases escaped : c = '"' ∨ c = '\\'
    · rw [escapeMessage, if_pos escaped, List.cons_append, List.cons_append, closeQuote, ih]
      · rfl
      · rcases escaped with rfl | rfl <;> decide
    · rw [escapeMessage, if_neg escaped, List.cons_append, closeQuote, ih]
      · rfl
      all_goals grind

/-- A written message is read as what stands between its quotes. -/
theorem takeQuoted_quoteMessage (message : String) (rest : List Char) :
    takeQuoted (quoteMessage message ++ rest) = some (escapeMessage message.toList, rest) := by
  have text : quoteMessage message ++ rest = '"' :: (escapeMessage message.toList ++ '"' :: rest) := by
    simp [quoteMessage]
  rw [text, takeQuoted, closeQuote_escapeMessage]

/-- A written message goes into one segment, whatever stands in it. -/
theorem unsplit_quoteMessage (message : String) : Unsplit (quoteMessage message) := by
  intro rest current
  have text : quoteMessage message ++ rest = '"' :: (escapeMessage message.toList ++ '"' :: rest) := by
    simp [quoteMessage]
  rw [text, splitSegments_quoted (closeQuote_escapeMessage message.toList rest)]
  simp [quoteMessage]

end LintBench
