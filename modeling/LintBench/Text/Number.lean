import LintBench.Text.Blank
import LintBench.Text.DecimalDigit

/-!
# Reading whole numbers

A numeral is a run of decimal digits of any script. A numeral of more than
`digitLimit` digits is refused, leading zeros counted, since reading it would
take time quadratic in its length.
-/

namespace LintBench.Text

/-- The longest numeral that is read. -/
def digitLimit : Nat := 4300

/-- The number that digit values spell, most significant first. -/
def numberOfDigits (values : List Nat) : Nat := values.foldl (fun n value => n * 10 + value) 0

/-- The number that a run of digits spells, unless the run is too long. -/
def readDigits (digits : List Char) : Option Nat :=
  if digits.length ≤ digitLimit then some (numberOfDigits (digits.filterMap digitValue?)) else none

/-- Digits with single low lines between them, the low lines dropped. -/
def separatedDigits? : List Char → Option (List Char)
  | [] => none
  | [c] => if isDecimalDigit c then some [c] else none
  | c :: '_' :: rest => if isDecimalDigit c then (separatedDigits? rest).map (c :: ·) else none
  | c :: rest => if isDecimalDigit c then (separatedDigits? rest).map (c :: ·) else none

/-- Whether a character may stand around a numeral: a blank that is no information separator. -/
def isNumeralBlank (c : Char) : Bool := isBlank c && !(28 ≤ c.toNat && c.toNat ≤ 31)

/-- Drop what may stand around a numeral. -/
def trimNumeral (text : List Char) : List Char :=
  ((text.dropWhile isNumeralBlank).reverse.dropWhile isNumeralBlank).reverse

/-- Read a numeral with a sign and blanks around it, and single low lines between digits. -/
def readInteger (text : List Char) : Option Int :=
  let magnitude (unsigned : List Char) : Option Nat :=
    (separatedDigits? unsigned).bind readDigits
  match trimNumeral text with
  | '+' :: rest => (magnitude rest).map Int.ofNat
  | '-' :: rest => (magnitude rest).map fun n => -Int.ofNat n
  | unsigned => (magnitude unsigned).map Int.ofNat

/-- The decimal text of an integer. -/
def showInteger : Int → String
  | .ofNat n => toString n
  | .negSucc n => "-" ++ toString (n + 1)

end LintBench.Text
