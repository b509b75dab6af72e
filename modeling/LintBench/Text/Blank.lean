/-!
# Blank characters

The characters that count as white space when a line, a comment, or a token is
trimmed: the bidirectional classes of white space and separators, the four
information separators among the control characters included. A zero-width
space and a byte-order mark are not blank.
-/

namespace LintBench.Text

/-- The white-space test used wherever text is trimmed. -/
def isBlank (c : Char) : Bool :=
  let n := c.toNat
  (9 ≤ n && n ≤ 13) || (28 ≤ n && n ≤ 32) || n == 0x85 || n == 0xA0 || n == 0x1680
    || (0x2000 ≤ n && n ≤ 0x200A) || n == 0x2028 || n == 0x2029 || n == 0x202F
    || n == 0x205F || n == 0x3000

/-- Drop the blanks at the front. -/
def skipBlanks (text : List Char) : List Char := text.dropWhile isBlank

/-- Drop the blanks at the end. -/
def dropTrailingBlanks (text : List Char) : List Char :=
  (text.reverse.dropWhile isBlank).reverse

/-- Drop the blanks at both ends. -/
def trim (text : List Char) : List Char := dropTrailingBlanks (skipBlanks text)

/-- Trimming of a string. -/
def trimmed (text : String) : String := String.ofList (trim text.toList)

/-- Whether nothing but blanks is left of a string. -/
def isAllBlank (text : String) : Bool := text.toList.all isBlank

/-- Skipping blanks never lengthens a text. -/
theorem length_skipBlanks_le (text : List Char) : (skipBlanks text).length ≤ text.length :=
  (List.dropWhile_suffix isBlank).length_le

/-- After the blanks are skipped the text is empty or starts with no blank. -/
theorem skipBlanks_eq_nil_or_cons (text : List Char) :
    skipBlanks text = [] ∨ ∃ c rest, skipBlanks text = c :: rest ∧ isBlank c = false := by
  induction text with
  | nil => exact .inl rfl
  | cons c rest ih =>
    by_cases blank : isBlank c
    · simpa [skipBlanks, List.dropWhile, blank] using ih
    · exact .inr ⟨c, rest, by simp [skipBlanks, List.dropWhile, blank], by simpa using blank⟩

end LintBench.Text
