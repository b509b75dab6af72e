import LintBench.Text.Loose
import LintBench.Text.Printable
import LintBench.Text.Utf8

/-!
# Quoted texts

The text of a string inside a larger value: single quotes around it, or double
quotes if it holds a single quote and no double one. The quote that is used, the
backslash and every character that cannot be printed are escaped.
-/

namespace LintBench.Text

/-- The digit of a value below sixteen. -/
def hexDigit (value : Nat) : Char :=
  if value < 10 then Char.ofNat (48 + value) else Char.ofNat (87 + value)

/-- The last `width` hexadecimal digits of a number. -/
def hexDigits : Nat → Nat → List Char
  | 0, _ => []
  | width + 1, n => hexDigits width (n / 16) ++ [hexDigit (n % 16)]

/-- The quote to put around a text that holds the given quotes. -/
def chooseQuote (hasSingle hasDouble : Bool) : Char :=
  if hasSingle && !hasDouble then '"' else '\''

/-- The escape of a code point, as short as its size allows. -/
def escapePoint (point : Nat) : List Char :=
  if point < 0x100 then '\\' :: 'x' :: hexDigits 2 point
  else if point < 0x10000 then '\\' :: 'u' :: hexDigits 4 point
  else '\\' :: 'U' :: hexDigits 8 point

/-- A character between quotes. -/
def quoteChar (quote : Char) (printable : Bool) (point : Nat) (c : Char) : List Char :=
  if c = quote ∨ c = '\\' then ['\\', c]
  else if c = '\n' then ['\\', 'n']
  else if c = '\r' then ['\\', 'r']
  else if c = '\t' then ['\\', 't']
  else if printable then [c]
  else escapePoint point

/-- A letter between quotes. -/
def quoteLetter (quote : Char) : Letter → List Char
  | .char c => quoteChar quote (isPrintable c) c.toNat c
  | half => escapePoint half.point

/-- A text between quotes. -/
def quoteText (text : LooseText) : String :=
  let quote := chooseQuote (text.letters.contains (.char '\'')) (text.letters.contains (.char '"'))
  String.ofList (quote :: text.letters.flatMap (quoteLetter quote) ++ [quote])

/-- Bytes between quotes, after the letter that marks them; bytes past the printable characters of
ASCII are escaped. -/
def quoteBytes (bytes : Bytes) : String :=
  let points := bytes.map UInt8.toNat
  let quote := chooseQuote (points.contains 39) (points.contains 34)
  String.ofList
    ('b' :: quote :: points.flatMap (fun n =>
      quoteChar quote (32 ≤ n && n < 127) n (Char.ofNat n)) ++ [quote])

end LintBench.Text
