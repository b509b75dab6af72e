import LintBench.Document.Value
import LintBench.Text.Encoding

/-!
# Reading JSON

The grammar of JSON with three more numbers: `NaN`, `Infinity` and `-Infinity`.
Of members with the same key the last one counts, at the place of the first. A
number without fraction and exponent is a whole number of any size up to the
limit of digits. Two escapes in a string that are the halves of a pair stand for
one character; any other half stays alone.
-/

namespace LintBench.Json

open Text (Bytes Letter lettersOf)

/-- Why a text is not read. -/
inductive Fault where
  /-- The text is not in the format. -/
  | malformed
  /-- A whole number has more digits than a numeral may have. -/
  | numeralTooLong
  /-- Too many lists and objects stand inside each other. -/
  | tooDeep
deriving DecidableEq, Repr

/-- The white space between tokens. -/
def isSpace (c : Char) : Bool := c == ' ' || c == '\t' || c == '\n' || c == '\r'

/-- Drop the white space at the front. -/
def skipSpace (text : List Letter) : List Letter := text.dropWhile (Letter.passes isSpace)

/-- A digit of a number. -/
def isDigit (c : Char) : Bool := '0' ≤ c && c ≤ '9'

/-- The digits at the front of a text, and the text after them. -/
def takeDigits : List Letter → List Char × List Letter
  | .char c :: rest =>
    if isDigit c then
      let (digits, after) := takeDigits rest
      (c :: digits, after)
    else ([], .char c :: rest)
  | text => ([], text)

/-- The number that digits spell. -/
def numberOf (digits : List Char) : Nat :=
  digits.foldl (fun n c => n * 10 + (c.toNat - 48)) 0

/-- The value of a hexadecimal digit. -/
def hexValue? (letter : Letter) : Option Nat := do
  let n := (← letter.char?).toNat
  if 48 ≤ n && n ≤ 57 then some (n - 48)
  else if 65 ≤ n && n ≤ 70 then some (n - 55)
  else if 97 ≤ n && n ≤ 102 then some (n - 87)
  else none

/-- The value of four hexadecimal digits. -/
def hexUnit? (a b c d : Letter) : Option Nat := do
  let a ← hexValue? a
  let b ← hexValue? b
  let c ← hexValue? c
  let d ← hexValue? d
  return ((a * 16 + b) * 16 + c) * 16 + d

/-- The character of a one-letter escape. -/
def simpleEscape? : Char → Option Char
  | '"' => some '"'
  | '\\' => some '\\'
  | '/' => some '/'
  | 'b' => some '\x08'
  | 'f' => some '\x0c'
  | 'n' => some '\n'
  | 'r' => some '\r'
  | 't' => some '\t'
  | _ => none

/-- A piece of a string. -/
inductive Piece where
  /-- A letter that stands for itself, or an escape of one letter. -/
  | letter (letter : Letter)
  /-- The unit that an escape of four digits names. -/
  | unit (unit : Nat)
deriving DecidableEq, Repr

/-- Read the rest of a string after its opening quote. -/
def readPieces : List Letter → Option (List Piece × List Letter)
  | [] => none
  | .char '"' :: rest => some ([], rest)
  | .char '\\' :: .char 'u' :: a :: b :: c :: d :: rest => do
    let unit ← hexUnit? a b c d
    let (pieces, after) ← readPieces rest
    return (.unit unit :: pieces, after)
  | .char '\\' :: .char c :: rest => do
    let escaped ← simpleEscape? c
    let (pieces, after) ← readPieces rest
    return (.letter (.char escaped) :: pieces, after)
  | letter :: rest =>
    if letter.point < 32 ∨ letter = .char '\\' then none
    else do
      let (pieces, after) ← readPieces rest
      return (.letter letter :: pieces, after)

/-- The letters of pieces: two units that are the halves of a pair make one. -/
def joinPieces : List Piece → List Letter
  | [] => []
  | .unit first :: .unit second :: rest =>
    if Text.isHighSurrogate first && Text.isLowSurrogate second then
      .ofPoint (Text.pairPoint first second) :: joinPieces rest
    else .ofPoint first :: joinPieces (.unit second :: rest)
  | .unit unit :: rest => .ofPoint unit :: joinPieces rest
  | .letter letter :: rest => letter :: joinPieces rest

/-- Read the rest of a string after its opening quote. -/
def readString (text : List Letter) : Except Fault (LooseText × List Letter) :=
  match readPieces text with
  | some (pieces, rest) => .ok (⟨joinPieces pieces⟩, rest)
  | none => .error .malformed

/-- Read a fraction: a point and at least one digit. -/
def readFraction : List Letter → Option (List Char) × List Letter
  | .char '.' :: rest =>
    let (digits, after) := takeDigits rest
    if digits.isEmpty then (none, .char '.' :: rest) else (some digits, after)
  | text => (none, text)

/-- The sign before an exponent. -/
def takeSign : List Letter → Bool × List Letter
  | .char '+' :: rest => (false, rest)
  | .char '-' :: rest => (true, rest)
  | text => (false, text)

/-- Read an exponent: the letter, a sign that may be left out, and at least one digit. -/
def readExponent : List Letter → Option Int × List Letter
  | .char c :: rest =>
    if c = 'e' ∨ c = 'E' then
      let (negative, unsigned) := takeSign rest
      let (digits, after) := takeDigits unsigned
      if digits.isEmpty then (none, .char c :: rest)
      else
        let size : Int := numberOf digits
        (some (if negative then -size else size), after)
    else (none, .char c :: rest)
  | text => (none, text)

/-- The digits before the point: a zero alone, or digits that start with none. -/
def takeWhole : List Letter → List Char × List Letter
  | .char '0' :: rest => (['0'], rest)
  | text => takeDigits text

/-- Read a number without its sign. -/
def readNumber (negative : Bool) (text : List Letter) : Except Fault (Value × List Letter) :=
  let (whole, afterWhole) := takeWhole text
  if whole.isEmpty then .error .malformed
  else
    let (fraction, afterFraction) := readFraction afterWhole
    let (exponent, rest) := readExponent afterFraction
    if fraction.isNone && exponent.isNone then
      if Text.digitLimit < whole.length then .error .numeralTooLong
      else
        let size : Int := numberOf whole
        .ok (.integer (if negative then -size else size), rest)
    else
      let places := fraction.getD []
      let power := exponent.getD 0 - places.length
      .ok (.decimal (.ofDecimal negative (numberOf (whole ++ places)) power), rest)

/-- Take a word off the front of a text. -/
def takeWord (word : String) (text : List Letter) : Option (List Letter) :=
  if (lettersOf word.toList).isPrefixOf text then some (text.drop word.length) else none

/-- The words that stand for values. -/
def words : List (String × Value) :=
  [("null", .null), ("true", .bool true), ("false", .bool false), ("NaN", .decimal .nan),
    ("Infinity", .decimal (.infinite false)), ("-Infinity", .decimal (.infinite true))]

/-- Read a value that holds no other values. -/
def readScalar (text : List Letter) : Except Fault (Value × List Letter) :=
  match words.findSome? fun (word, value) => (takeWord word text).map (value, ·) with
  | some reading => .ok reading
  | none =>
    match text with
    | .char '"' :: rest => (readString rest).map fun (value, after) => (.text value, after)
    | .char '-' :: rest => readNumber true rest
    | _ => readNumber false text

mutual

/-- Read a value off the front of a text. At most `depth` lists and objects may stand inside each
other, and every call takes one from `fuel`. -/
def readValue : Nat → Nat → List Letter → Except Fault (Value × List Letter)
  | 0, _, _ => .error .malformed
  | _ + 1, 0, .char '[' :: _ => .error .tooDeep
  | _ + 1, 0, .char '\x7b' :: _ => .error .tooDeep
  | fuel + 1, depth + 1, .char '[' :: rest =>
    match skipSpace rest with
    | .char ']' :: after => .ok (.list [], after)
    | start => (readItems fuel depth start).map fun (items, after) => (.list items, after)
  | fuel + 1, depth + 1, .char '\x7b' :: rest =>
    match skipSpace rest with
    | .char '\x7d' :: after => .ok (.object [], after)
    | start =>
      (readMembers fuel depth start []).map fun (members, after) => (.object members, after)
  | _ + 1, _, text => readScalar text

/-- Read the values of a list up to its closing bracket. -/
def readItems : Nat → Nat → List Letter → Except Fault (List Value × List Letter)
  | 0, _, _ => .error .malformed
  | fuel + 1, depth, text => do
    let (value, rest) ← readValue fuel depth text
    match skipSpace rest with
    | .char ',' :: more =>
      let (values, after) ← readItems fuel depth (skipSpace more)
      return (value :: values, after)
    | .char ']' :: after => return ([value], after)
    | _ => .error .malformed

/-- Read the members of an object up to its closing brace, after those read already. -/
def readMembers : Nat → Nat → List Letter → List (MemberKey × Value) →
    Except Fault (List (MemberKey × Value) × List Letter)
  | 0, _, _, _ => .error .malformed
  | fuel + 1, depth, .char '"' :: text, members => do
    let (key, afterKey) ← readString text
    match skipSpace afterKey with
    | .char ':' :: start =>
      let (value, rest) ← readValue fuel depth (skipSpace start)
      let members := Value.setMember members (.text key) value
      match skipSpace rest with
      | .char ',' :: more => readMembers fuel depth (skipSpace more) members
      | .char '\x7d' :: after => return (members, after)
      | _ => .error .malformed
    | _ => .error .malformed
  | _ + 1, _, _, _ => .error .malformed

end

/-- How many lists and objects may stand inside each other. -/
def deepest : Nat := 988

/-- Read a whole document. Each call of a reader below takes at least one of two letters, so
twice the length of the text is fuel enough. -/
def read (text : LooseText) : Except Fault Value := do
  let letters := text.letters
  let (value, rest) ← readValue (2 * letters.length + 2) deepest (skipSpace letters)
  if (skipSpace rest).isEmpty then .ok value else .error .malformed

/-- Why a document in bytes is not read. -/
inductive BytesFault where
  /-- The bytes are no text. -/
  | undecodable
  /-- The text is not read. -/
  | text (fault : Fault)
deriving DecidableEq, Repr

/-- Read a whole document in bytes. -/
def readBytes (bytes : Bytes) : Except BytesFault Value :=
  match Text.decodeDocument? bytes with
  | some text => (read text).mapError .text
  | none => .error .undecodable

end LintBench.Json
