import LintBench.Text.Split

/-!
# Lines of a text

A text that is read from a file ends its lines in one way only: the other two
spellings of a line's end become a line feed. Where a text is compared line by
line, all characters that end a line part it, and each line keeps its end.
-/

namespace LintBench.Text

/-- Let every line end in a line feed. -/
def normalizeLineEnds : List Char → List Char
  | '\r' :: '\n' :: rest => '\n' :: normalizeLineEnds rest
  | '\r' :: rest => '\n' :: normalizeLineEnds rest
  | c :: rest => c :: normalizeLineEnds rest
  | [] => []

/-- Whether a character ends a line. -/
def endsLine (c : Char) : Bool :=
  let n := c.toNat
  (10 ≤ n && n ≤ 13) || (28 ≤ n && n ≤ 30) || n == 0x85 || n == 0x2028 || n == 0x2029

/-- The lines of a text, each with its end; a carriage return and the line feed after it are one
end. Nothing follows the last end. -/
def linesWithEnds : List Char → List (List Char)
  | [] => []
  | '\r' :: '\n' :: rest => ['\r', '\n'] :: linesWithEnds rest
  | c :: rest =>
    if endsLine c then [c] :: linesWithEnds rest
    else match linesWithEnds rest with
      | [] => [[c]]
      | line :: lines => (c :: line) :: lines

/-- A line without its end. -/
def withoutEnd (line : List Char) : List Char := line.takeWhile fun c => !endsLine c

/-- The lines with their ends are the text. -/
theorem flatten_linesWithEnds (text : List Char) : (linesWithEnds text).flatten = text := by
  fun_induction linesWithEnds text <;> simp_all

end LintBench.Text
