import LintBench.Document.Toml.Value
import LintBench.Text.Number
import LintBench.Text.Split

/-!
# TOML texts, numbers and points in time

The readers of what holds no other values. Each gives what it read and the rest
of the text. A reader of a number or of a point in time gives nothing if the
text does not start with one.
-/

namespace LintBench.Toml

/-- Why a document is not read. -/
inductive Fault where
  /-- The text is not in the format. -/
  | malformed
  /-- A whole number has more digits than a numeral may have. -/
  | numeralTooLong
  /-- Too many lists and tables stand inside each other. -/
  | tooDeep
deriving DecidableEq, Repr

/-- Whether a character takes part in no text and no comment. -/
def isControl (c : Char) : Bool := (c.toNat < 32 && c ≠ '\t') || c.toNat == 127

/-- Blanks on a line. -/
def isSpace (c : Char) : Bool := c = ' ' || c = '\t'

/-- Drop the blanks at the front. -/
def skipSpace (text : List Char) : List Char := text.dropWhile isSpace

/-- Blanks and ends of lines. -/
def isSpaceOrEnd (c : Char) : Bool := isSpace c || c = '\n'

/-- Drop the blanks and the ends of lines at the front. -/
def skipSpaceAndEnds (text : List Char) : List Char := text.dropWhile isSpaceOrEnd

/-- Take a word off the front of a text. -/
def takeWord (word : String) (text : List Char) : Option (List Char) :=
  if word.toList.isPrefixOf text then some (text.drop word.length) else none

/-! ## Texts -/

/-- The value of a hexadecimal digit. -/
def hexDigit? (c : Char) : Option Nat :=
  if '0' ≤ c ∧ c ≤ '9' then some (c.toNat - 48)
  else if 'a' ≤ c ∧ c ≤ 'f' then some (c.toNat - 87)
  else if 'A' ≤ c ∧ c ≤ 'F' then some (c.toNat - 55)
  else none

/-- The character whose code point stands in so many hexadecimal digits. -/
def readCodePoint (count : Nat) (text : List Char) : Option Char := do
  let digits ← (text.take count).mapM hexDigit?
  let point := digits.foldl (fun n digit => n * 16 + digit) 0
  if digits.length = count ∧ point.isValidChar then some (Char.ofNat point) else none

/-- The character of a one-letter escape. -/
def simpleEscape? : Char → Option Char
  | 'b' => some '\x08'
  | 't' => some '\t'
  | 'n' => some '\n'
  | 'f' => some '\x0c'
  | 'r' => some '\r'
  | '"' => some '"'
  | '\\' => some '\\'
  | _ => none

/-- Read an escape after its backslash. -/
def readEscape : List Char → Option (Char × List Char)
  | 'u' :: rest => (readCodePoint 4 rest).map (·, rest.drop 4)
  | 'U' :: rest => (readCodePoint 8 rest).map (·, rest.drop 8)
  | c :: rest => (simpleEscape? c).map (·, rest)
  | [] => none

/-- Skip the end of a line that a backslash stands before, and the blanks and ends after it. -/
def skipLineEnd (text : List Char) : Option (List Char) :=
  match skipSpace text with
  | '\n' :: rest => some (skipSpaceAndEnds rest)
  | [] => some []
  | _ => none

/-- Read a text on one line after its opening quote. Every character takes one from `fuel`. -/
def readQuoted : Nat → List Char → Option (List Char × List Char)
  | 0, _ => none
  | _, [] => none
  | _, '"' :: rest => some ([], rest)
  | fuel + 1, '\\' :: rest => do
    let (c, after) ← readEscape rest
    let (text, rest) ← readQuoted fuel after
    return (c :: text, rest)
  | fuel + 1, c :: rest =>
    if isControl c then none
    else (readQuoted fuel rest).map fun (text, after) => (c :: text, after)

/-- Read a text over several lines after its opening quotes. Every character takes one from
`fuel`. -/
def readQuotedLines : Nat → List Char → Option (List Char × List Char)
  | 0, _ => none
  | _, [] => none
  | _, '"' :: '"' :: '"' :: rest => some ([], rest)
  | fuel + 1, '\\' :: rest =>
    if (rest.head?.map isSpaceOrEnd).getD false then do
      readQuotedLines fuel (← skipLineEnd rest)
    else do
      let (c, after) ← readEscape rest
      let (text, rest) ← readQuotedLines fuel after
      return (c :: text, rest)
  | fuel + 1, c :: rest =>
    if isControl c && c ≠ '\n' then none
    else (readQuotedLines fuel rest).map fun (text, after) => (c :: text, after)

/-- Read a text that knows no escapes up to its closing apostrophe. -/
def readLiteral : List Char → Option (List Char × List Char)
  | [] => none
  | '\'' :: rest => some ([], rest)
  | c :: rest =>
    if isControl c then none else (readLiteral rest).map fun (text, after) => (c :: text, after)

/-- Read a text over several lines that knows no escapes up to its closing apostrophes. -/
def readLiteralLines : List Char → Option (List Char × List Char)
  | [] => none
  | '\'' :: '\'' :: '\'' :: rest => some ([], rest)
  | c :: rest =>
    if isControl c && c ≠ '\n' then none
    else (readLiteralLines rest).map fun (text, after) => (c :: text, after)

/-- An end of a line right after the opening quotes is no part of the text. -/
def dropFirstEnd : List Char → List Char
  | '\n' :: rest => rest
  | text => text

/-- One or two more quotes after the closing ones are the end of the text. -/
def takeFinalQuotes (quote : Char) : List Char × List Char → List Char × List Char
  | (text, first :: second :: rest) =>
    if first = quote then
      if second = quote then (text ++ [quote, quote], rest) else (text ++ [quote], second :: rest)
    else (text, first :: second :: rest)
  | (text, [first]) => if first = quote then (text ++ [quote], []) else (text, [first])
  | (text, []) => (text, [])

/-- Read a text on one line, if there is one at the front. -/
def readLineText : List Char → Option (List Char × List Char)
  | '"' :: rest => readQuoted (rest.length + 1) rest
  | '\'' :: rest => readLiteral rest
  | _ => none

/-- Read a text, if there is one at the front. -/
def readText : List Char → Option (List Char × List Char)
  | '"' :: '"' :: '"' :: rest =>
    (readQuotedLines (rest.length + 1) (dropFirstEnd rest)).map (takeFinalQuotes '"')
  | '\'' :: '\'' :: '\'' :: rest =>
    (readLiteralLines (dropFirstEnd rest)).map (takeFinalQuotes '\'')
  | text => readLineText text

/-! ## Numbers -/

/-- A decimal digit. -/
def isDigit (c : Char) : Bool := '0' ≤ c && c ≤ '9'

/-- The digits of a class at the front of a text, single low lines between them left out. -/
def takeDigits (ofClass : Char → Bool) : List Char → List Char × List Char
  | [] => ([], [])
  | c :: '_' :: d :: rest =>
    if ofClass c && ofClass d then
      let (digits, after) := takeDigits ofClass (d :: rest)
      (c :: digits, after)
    else if ofClass c then ([c], '_' :: d :: rest)
    else ([], c :: '_' :: d :: rest)
  | c :: rest =>
    if ofClass c then
      let (digits, after) := takeDigits ofClass rest
      (c :: digits, after)
    else ([], c :: rest)

/-- Drop a sign at the front. -/
def dropSign : List Char → List Char
  | '+' :: rest | '-' :: rest => rest
  | text => text

/-- A mark and the digits after it, if both are there; else nothing is taken. -/
def takeMarked (isMark : Char → Bool) (signed : Bool) : List Char → Bool × List Char
  | c :: rest =>
    if isMark c then
      let (digits, after) := takeDigits isDigit (if signed then dropSign rest else rest)
      if digits.isEmpty then (false, c :: rest) else (true, after)
    else (false, c :: rest)
  | [] => (false, [])

/-- The letters that stand before digits of another base, and those digits. -/
def bases : List (Char × (Char → Bool)) :=
  [('x', fun c => (hexDigit? c).isSome), ('b', fun c => c = '0' || c = '1'),
    ('o', fun c => '0' ≤ c && c ≤ '7')]

/-- A whole number of another base at the front of a text. -/
def takeBased : List Char → Option (List Char)
  | '0' :: letter :: rest => do
    let ofClass ← bases.lookup letter
    let (digits, after) := takeDigits ofClass rest
    if digits.isEmpty then none else some after
  | _ => none

/-- The digits of a number before its point: a zero alone, or digits that start with none. -/
def takeWhole : List Char → List Char × List Char
  | '0' :: rest => (['0'], rest)
  | text => takeDigits isDigit text

/-- The words for numbers that are not finite. -/
def takeNotFinite (text : List Char) : Option (List Char) :=
  let unsigned := dropSign text
  (takeWord "inf" unsigned).or (takeWord "nan" unsigned)

/-- Read a number, if there is one at the front. -/
def readNumber (text : List Char) : Except Fault (Option (Kind × List Char)) :=
  match takeBased text with
  | some rest => .ok (some (.integer, rest))
  | none =>
    let (whole, afterWhole) := takeWhole (dropSign text)
    if whole.isEmpty then .ok ((takeNotFinite text).map fun rest => (.decimal, rest))
    else
      let (fraction, afterFraction) := takeMarked (· = '.') false afterWhole
      let (exponent, rest) := takeMarked (fun c => c = 'e' || c = 'E') true afterFraction
      if fraction || exponent then .ok (some (.decimal, rest))
      else if Text.digitLimit < whole.length then .error .numeralTooLong
      else .ok (some (.integer, rest))

/-! ## Points in time -/

/-- The number of so many digits at the front of a text, if it is in bounds. -/
def takeField (count low high : Nat) (text : List Char) : Option (Nat × List Char) :=
  let digits := text.take count
  let value := Text.numberOfDigits (digits.map fun c => c.toNat - 48)
  if digits.length = count ∧ digits.all isDigit ∧ low ≤ value ∧ value ≤ high then
    some (value, text.drop count)
  else none

/-- Take one character off the front. -/
def takeChar (c : Char) : List Char → Option (List Char)
  | d :: rest => if c = d then some rest else none
  | [] => none

/-- A time of day at the front of a text. -/
def takeTime (text : List Char) : Option (List Char) := do
  let (_, text) ← takeField 2 0 23 text
  let (_, text) ← takeField 2 0 59 (← takeChar ':' text)
  let (_, text) ← takeField 2 0 59 (← takeChar ':' text)
  match text with
  | '.' :: c :: rest => return if isDigit c then rest.dropWhile isDigit else text
  | _ => return text

/-- The distance from universal time at the front of a text. -/
def takeOffset (text : List Char) : Option (List Char) :=
  match text with
  | 'Z' :: rest | 'z' :: rest => some rest
  | '+' :: rest | '-' :: rest => do
    let (_, text) ← takeField 2 0 23 rest
    let (_, text) ← takeField 2 0 59 (← takeChar ':' text)
    return text
  | _ => none

/-- How many days a month has. -/
def daysOf (year month : Nat) : Nat :=
  if month = 2 then
    if year % 4 = 0 ∧ (year % 100 ≠ 0 ∨ year % 400 = 0) then 29 else 28
  else if [4, 6, 9, 11].contains month then 30
  else 31

/-- A day at the front of a text, and whether there is such a day. -/
def takeDate (text : List Char) : Option (Bool × List Char) := do
  let (year, text) ← takeField 4 0 9999 text
  let (month, text) ← takeField 2 1 12 (← takeChar '-' text)
  let (day, text) ← takeField 2 1 31 (← takeChar '-' text)
  return (1 ≤ year && day ≤ daysOf year month, text)

/-- The time of day that may follow a day. -/
def takeTimeAfterDate : List Char → Option (List Char)
  | c :: rest =>
    if c = 'T' ∨ c = 't' ∨ c = ' ' then
      (takeTime rest).map fun after => (takeOffset after).getD after
    else none
  | [] => none

/-- Read a point in time, if there is one at the front. -/
def readMoment (text : List Char) : Except Fault (Option (Kind × List Char)) :=
  match takeDate text with
  | some (false, _) => .error .malformed
  | some (true, rest) =>
    match takeTimeAfterDate rest with
    | some after => .ok (some (.dateTime, after))
    | none => .ok (some (.date, rest))
  | none => .ok ((takeTime text).map fun rest => (.time, rest))

end LintBench.Toml
