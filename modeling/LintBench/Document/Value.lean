import LintBench.Decimal.Shortest
import LintBench.Text.Number
import LintBench.Text.Quoted

/-!
# Decoded documents

The value of a document, whatever format it was written in: the values that JSON
has, and the bytes, extensions and timestamps of packed documents. An object
keeps its members in the order in which their keys first came.
-/

namespace LintBench

open Text (Bytes)

/-- The key of an object's member. -/
inductive MemberKey where
  /-- A text. -/
  | text (text : LooseText)
  /-- Bytes; only packed documents have such keys. -/
  | bytes (bytes : Bytes)
deriving DecidableEq, Repr, Inhabited

/-- The value of a document. -/
inductive Value where
  /-- Nothing. -/
  | null
  /-- A truth value. -/
  | bool (value : Bool)
  /-- A whole number of any size. -/
  | integer (value : Int)
  /-- A number of double precision. -/
  | decimal (value : Double)
  /-- A text. -/
  | text (value : LooseText)
  /-- Bytes. -/
  | bytes (value : Bytes)
  /-- Values in a row. -/
  | list (items : List Value)
  /-- Values by key. -/
  | object (members : List (MemberKey × Value))
  /-- Bytes with the code of their meaning. -/
  | extension (code : Int) (data : Bytes)
  /-- A point in time. -/
  | timestamp (seconds : Int) (nanoseconds : Nat)
deriving Repr, Inhabited

/-- Why a value is not a whole number. -/
inductive NumberFault where
  /-- A text that is no numeral, or a number that is none. -/
  | notNumeric
  /-- An infinite number. -/
  | infinite
  /-- A value of a type that has no whole number. -/
  | wrongType
deriving DecidableEq, Repr

namespace Value

/-- Give a member a value; a key that is present keeps its place. -/
def setMember (members : List (MemberKey × Value)) (key : MemberKey) (value : Value) :
    List (MemberKey × Value) :=
  match members with
  | [] => [(key, value)]
  | (k, present) :: rest =>
    if k = key then (k, value) :: rest else (k, present) :: setMember rest key value

/-- The member under a text, if there is one. -/
def member? (members : List (MemberKey × Value)) (key : String) : Option Value :=
  (members.find? fun (k, _) => k = .text (.ofString key)).map Prod.snd

/-- The member under a text; nothing if there is none. -/
def memberOrNull (members : List (MemberKey × Value)) (key : String) : Value :=
  (member? members key).getD .null

/-- Whether a value counts as missing where a default is at hand: nothing, false, zero, and
whatever is empty. -/
def isMissing : Value → Bool
  | .null => true
  | .bool value => !value
  | .integer value => value == 0
  | .decimal value => value.isZero
  | .text value => value.isEmpty
  | .bytes value => value.isEmpty
  | .list items => items.isEmpty
  | .object members => members.isEmpty
  | .extension _ _ | .timestamp _ _ => false

/-- The spellings of numbers that are not finite in the text of a value. -/
def numberNames : Double.Names := ⟨"inf", "nan"⟩

/-- The text of a key inside a value. -/
def quoteKey : MemberKey → String
  | .text name => Text.quoteText name
  | .bytes name => Text.quoteBytes name

mutual

/-- The text of a value inside a message: texts and bytes stand between quotes. -/
def quoted : Value → String
  | .null => "None"
  | .bool value => if value then "True" else "False"
  | .integer value => Text.showInteger value
  | .decimal value => value.text numberNames
  | .text value => Text.quoteText value
  | .bytes value => Text.quoteBytes value
  | .list items => "[" ++ ", ".intercalate (quotedItems items) ++ "]"
  | .object members => "\x7b" ++ ", ".intercalate (quotedMembers members) ++ "\x7d"
  | .extension code data =>
    "ExtType(code=" ++ Text.showInteger code ++ ", data=" ++ Text.quoteBytes data ++ ")"
  | .timestamp seconds nanoseconds =>
    "Timestamp(seconds=" ++ Text.showInteger seconds ++ ", nanoseconds="
      ++ toString nanoseconds ++ ")"

/-- The texts of values in a row. -/
def quotedItems : List Value → List String
  | [] => []
  | value :: rest => quoted value :: quotedItems rest

/-- The texts of members, each with its key. -/
def quotedMembers : List (MemberKey × Value) → List String
  | [] => []
  | (key, value) :: rest => (quoteKey key ++ ": " ++ quoted value) :: quotedMembers rest

end

/-- The text of a value on its own: a text stands for itself. -/
def plainText : Value → LooseText
  | .text value => value
  | value => .ofString (quoted value)

/-- The text of a value, or no text if the value counts as missing. -/
def textOrEmpty (value : Value) : LooseText := if value.isMissing then {} else value.plainText

/-- The numeral that bytes hold, if they hold nothing else; blanks of ASCII may stand around it. -/
def numeralOfBytes (data : Bytes) : Option Int :=
  let isBlank (n : Nat) : Bool := (9 ≤ n && n ≤ 13) || n == 32
  if data.all fun byte => isBlank byte.toNat || (33 ≤ byte.toNat && byte.toNat < 127) then
    Text.readInteger (data.map fun byte => Char.ofNat byte.toNat)
  else none

/-- The whole number of a value: a fraction is cut off, a truth value counts as zero or one, and a
text is read as a numeral. -/
def toInteger : Value → Except NumberFault Int
  | .bool value => .ok (if value then 1 else 0)
  | .integer value => .ok value
  | .decimal .nan => .error .notNumeric
  | .decimal value => match value.truncate? with
    | some whole => .ok whole
    | none => .error .infinite
  | .text value => match value.toString?.bind fun text => Text.readInteger text.toList with
    | some whole => .ok whole
    | none => .error .notNumeric
  | .bytes value => match numeralOfBytes value with
    | some whole => .ok whole
    | none => .error .notNumeric
  | .null | .list _ | .object _ | .extension _ _ | .timestamp _ _ => .error .wrongType

/-- The whole number of a value, or zero if the value counts as missing. -/
def integerOrZero (value : Value) : Except NumberFault Int :=
  if value.isMissing then .ok 0 else value.toInteger

end Value

end LintBench
