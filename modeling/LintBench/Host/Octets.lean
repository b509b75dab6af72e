import LintBench.Text.Split
import LintBench.Text.Utf8

/-!
# Texts of bytes

Scripts and what they pass around are bytes. A byte is held as the character with
its number, so that signs can be written as such; other characters are more than
one of these.
-/

namespace LintBench.Host

open Text (Bytes)

/-- Characters each of which stands for one byte. -/
abbrev Octets := List Char

/-- The text of bytes. -/
def Octets.ofBytes (bytes : Bytes) : Octets := bytes.map fun byte => Char.ofNat byte.toNat

/-- The bytes of a text. -/
def Octets.toBytes (text : Octets) : Bytes := text.map fun c => UInt8.ofNat c.toNat

/-- A string as a text of bytes. -/
def octets (text : String) : Octets := .ofBytes (Text.encodeUtf8 text)

/-- A text of bytes as a string; what is no character is replaced. -/
def Octets.shown (text : Octets) : String := Text.decodeUtf8Lossy (Octets.toBytes text)

/-- The digits of a number. -/
def decimal (n : Int) : Octets := (toString n).toList

/-- The number that a digit stands for in a base of up to sixteen. -/
def digitOf? (base : Nat) (c : Char) : Option Nat :=
  let n := if c.isDigit then c.toNat - '0'.toNat
    else if 'a' ≤ c.toLower && c.toLower ≤ 'f' then c.toLower.toNat - 'a'.toNat + 10
    else base
  if n < base then some n else none

/-- The number that a text of digits of a base spells. -/
def numberOf? (base : Nat) (text : Octets) : Option Nat :=
  if text.isEmpty then none
  else text.foldlM (fun n c => (digitOf? base c).map (n * base + ·)) 0

/-- The number that a text of digits spells. -/
def naturalOf? (text : Octets) : Option Nat := numberOf? 10 text

/-- The number that a text of digits with a sign spells. -/
def integerOf? : Octets → Option Int
  | '-' :: digits => (naturalOf? digits).map fun n => -(n : Int)
  | '+' :: digits => (naturalOf? digits).map fun n => (n : Int)
  | digits => (naturalOf? digits).map fun n => (n : Int)

/-- The lines of a text, without their ends; a last line need not have one. -/
def linesOfOctets (text : Octets) : List Octets :=
  match (Text.splitOn '\n' text).reverse with
  | [] :: whole => whole.reverse
  | lines => lines.reverse

/-- Texts with a separator between them. -/
def joined (separator : Octets) (texts : List Octets) : Octets := List.intercalate separator texts

end LintBench.Host
