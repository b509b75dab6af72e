import LintBench.Text.Utf8

/-!
# Finding the encoding of a document

A document in bytes may start with a byte-order mark. Without one the zero
bytes among the first four show the width of a character, since a document of
the format starts with a character below U+0080.
-/

namespace LintBench.Text

/-- The encodings that a document may have. -/
inductive Encoding where
  /-- One to four bytes for each character. -/
  | utf8
  /-- Units of two bytes, the more significant one first or last. -/
  | utf16 (bigEndian : Bool)
  /-- Units of four bytes, the most significant one first or last. -/
  | utf32 (bigEndian : Bool)
deriving DecidableEq, Repr

/-- The byte-order marks, each with its encoding. A mark that starts with another one comes first.
-/
def byteOrderMarks : List (Bytes × Encoding) :=
  [([0x00, 0x00, 0xFE, 0xFF], .utf32 true), ([0xFF, 0xFE, 0x00, 0x00], .utf32 false),
    ([0xFE, 0xFF], .utf16 true), ([0xFF, 0xFE], .utf16 false), ([0xEF, 0xBB, 0xBF], .utf8)]

/-- The encoding that the zero bytes of a document show. -/
def encodingOfZeros : List Bool → Encoding
  | true :: second :: _ :: _ :: _ => if second then .utf32 true else .utf16 true
  | _ :: true :: third :: fourth :: _ => if third && fourth then .utf32 false else .utf16 false
  | [true, _] => .utf16 true
  | [_, true] => .utf16 false
  | _ => .utf8

/-- The encoding of a document, and its bytes without the byte-order mark. -/
def detectEncoding (bytes : Bytes) : Encoding × Bytes :=
  match byteOrderMarks.find? fun (mark, _) => mark.isPrefixOf bytes with
  | some (mark, encoding) => (encoding, bytes.drop mark.length)
  | none => (encodingOfZeros (bytes.map (· == 0)), bytes)

/-- The units of two bytes; a single byte at the end is refused. -/
def units16? (bigEndian : Bool) : Bytes → Option (List Nat)
  | [] => some []
  | [_] => none
  | a :: b :: rest =>
    let unit := if bigEndian then a.toNat * 256 + b.toNat else b.toNat * 256 + a.toNat
    (units16? bigEndian rest).map (unit :: ·)

/-- The units of four bytes; bytes left over are refused. -/
def units32? (bigEndian : Bool) : Bytes → Option (List Nat)
  | [] => some []
  | a :: b :: c :: d :: rest =>
    let unit (w x y z : UInt8) := ((w.toNat * 256 + x.toNat) * 256 + y.toNat) * 256 + z.toNat
    (units32? bigEndian rest).map ((if bigEndian then unit a b c d else unit d c b a) :: ·)
  | _ => none

/-- Whether a unit is the first half of a pair. -/
def isHighSurrogate (unit : Nat) : Bool := 0xD800 ≤ unit && unit ≤ 0xDBFF

/-- Whether a unit is the second half of a pair. -/
def isLowSurrogate (unit : Nat) : Bool := 0xDC00 ≤ unit && unit ≤ 0xDFFF

/-- The code point of a pair of units. -/
def pairPoint (high low : Nat) : Nat := 0x10000 + (high - 0xD800) * 0x400 + (low - 0xDC00)

/-- The letters of units of two bytes. A half without the other stays alone. -/
def joinUnits16 : List Nat → List Letter
  | [] => []
  | [unit] => [.ofPoint unit]
  | first :: second :: rest =>
    if isHighSurrogate first && isLowSurrogate second then
      .ofPoint (pairPoint first second) :: joinUnits16 rest
    else .ofPoint first :: joinUnits16 (second :: rest)

/-- Read a document in bytes as text, if its bytes are well formed but for halves of surrogate
pairs. -/
def decodeDocument? (bytes : Bytes) : Option LooseText :=
  match detectEncoding bytes with
  | (.utf8, rest) => decodeLooseUtf8? rest
  | (.utf16 bigEndian, rest) => (units16? bigEndian rest).map fun units => ⟨joinUnits16 units⟩
  | (.utf32 bigEndian, rest) =>
    (units32? bigEndian rest).bind fun points =>
      if points.all (· ≤ 0x10FFFF) then some ⟨points.map .ofPoint⟩ else none

end LintBench.Text
