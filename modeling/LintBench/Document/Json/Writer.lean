import LintBench.Document.Value
import LintBench.Text.Encoding

/-!
# Writing JSON

Documents are written in ASCII: any other character is escaped, a character past
the first plane as two halves, and a half that stands alone as itself. Members and
items stand on lines of their own, two spaces further in than the brackets around
them.
-/

namespace LintBench.Json

open Text (Letter)

/-- The spellings of numbers that are not finite. -/
def numberNames : Double.Names := ⟨"Infinity", "NaN"⟩

/-- The escape of one unit. -/
def escapeUnit (unit : Nat) : List Char := '\\' :: 'u' :: Text.hexDigits 4 unit

/-- A character inside a string. -/
def escapeChar (c : Char) : List Char :=
  match c with
  | '"' => ['\\', '"']
  | '\\' => ['\\', '\\']
  | '\n' => ['\\', 'n']
  | '\r' => ['\\', 'r']
  | '\t' => ['\\', 't']
  | '\x08' => ['\\', 'b']
  | '\x0c' => ['\\', 'f']
  | c =>
    let point := c.toNat
    if 32 ≤ point ∧ point ≤ 126 then [c]
    else if point < 0x10000 then escapeUnit point
    else
      let offset := point - 0x10000
      escapeUnit (0xD800 + offset / 0x400) ++ escapeUnit (0xDC00 + offset % 0x400)

/-- A letter inside a string. -/
def escapeLetter : Letter → List Char
  | .char c => escapeChar c
  | half => escapeUnit half.point

/-- A string between quotes. -/
def writeString (text : LooseText) : List Char :=
  '"' :: text.letters.flatMap escapeLetter ++ ['"']

/-- A value that holds no other values; one that the format does not have is written as its
text. -/
def writeScalar : Value → List Char
  | .null => "null".toList
  | .bool value => (if value then "true" else "false").toList
  | .integer value => (Text.showInteger value).toList
  | .decimal value => (value.text numberNames).toList
  | .text value => writeString value
  | value => writeString value.quoted

/-- A key between quotes. -/
def writeKey : MemberKey → List Char
  | .text text => writeString text
  | .bytes bytes => writeString (Text.quoteBytes bytes)

/-- The start of a line, so many steps further in. -/
def newLine (depth : Nat) : List Char := '\n' :: List.replicate (2 * depth) ' '

/-- Written parts between brackets, each on a line of its own. -/
def bracket (opening closing : Char) (depth : Nat) (parts : List (List Char)) : List Char :=
  if parts.isEmpty then [opening, closing]
  else opening :: newLine (depth + 1)
    ++ List.intercalate (',' :: newLine (depth + 1)) parts ++ newLine depth ++ [closing]

mutual

/-- A value whose brackets stand so many steps in. -/
def writeValue (depth : Nat) : Value → List Char
  | .list items => bracket '[' ']' depth (writeItems (depth + 1) items)
  | .object members => bracket '\x7b' '\x7d' depth (writeMembers (depth + 1) members)
  | value => writeScalar value

/-- The values of a list. -/
def writeItems (depth : Nat) : List Value → List (List Char)
  | [] => []
  | value :: rest => writeValue depth value :: writeItems depth rest

/-- The members of an object. -/
def writeMembers (depth : Nat) : List (MemberKey × Value) → List (List Char)
  | [] => []
  | (key, value) :: rest =>
    (writeKey key ++ ':' :: ' ' :: writeValue depth value) :: writeMembers depth rest

end

/-- A whole document. -/
def write (value : Value) : String := String.ofList (writeValue 0 value)

end LintBench.Json
