import LintBench.Text.Loose

/-!
# UTF-8

Bytes are cut into the longest well-formed sequences. A byte that starts none is
taken together with the bytes that could still have continued it, and the
readings differ in what becomes of such a part: two refuse the text, the other
puts the replacement character in its place. One of the two lets halves of
surrogate pairs pass.
-/

namespace LintBench.Text

/-- A sequence of bytes, as it is stored in a file. -/
abbrev Bytes := List UInt8

/-- What the first byte of a longer sequence promises: how many bytes follow, the bounds of the
first of them, and the bits of the code point it holds itself. -/
structure Lead where
  /-- How many bytes follow. -/
  count : Nat
  /-- The least value of the byte that comes next. -/
  low : UInt8
  /-- The greatest value of the byte that comes next. -/
  high : UInt8
  /-- The leading bits of the code point. -/
  bits : Nat

/-- The promise of a first byte. The bounds rule out overlong forms, code points past the last
plane and, unless `halves` says otherwise, halves of surrogate pairs. -/
def Lead.ofByte? (halves : Bool) (byte : UInt8) : Option Lead :=
  let n := byte.toNat
  if 0xC2 ≤ n && n ≤ 0xDF then some ⟨1, 0x80, 0xBF, n - 0xC0⟩
  else if n == 0xE0 then some ⟨2, 0xA0, 0xBF, 0⟩
  else if n == 0xED && !halves then some ⟨2, 0x80, 0x9F, 0xD⟩
  else if 0xE1 ≤ n && n ≤ 0xEF then some ⟨2, 0x80, 0xBF, n - 0xE0⟩
  else if n == 0xF0 then some ⟨3, 0x90, 0xBF, 0⟩
  else if 0xF1 ≤ n && n ≤ 0xF3 then some ⟨3, 0x80, 0xBF, n - 0xF0⟩
  else if n == 0xF4 then some ⟨3, 0x80, 0x8F, 4⟩
  else none

/-- Read the bytes that follow a first byte. Gives the code point if all are there, and the bytes
after those that were read. -/
def takeContinuations : Nat → UInt8 → UInt8 → Nat → Bytes → Option Nat × Bytes
  | 0, _, _, bits, rest => (some bits, rest)
  | _ + 1, _, _, _, [] => (none, [])
  | count + 1, low, high, bits, byte :: rest =>
    if low ≤ byte && byte ≤ high then
      takeContinuations count 0x80 0xBF (bits * 64 + (byte.toNat - 0x80)) rest
    else (none, byte :: rest)

/-- What is left after continuation bytes is no longer than the bytes. -/
theorem takeContinuations_length (count : Nat) (low high : UInt8) (bits : Nat) (bytes : Bytes) :
    (takeContinuations count low high bits bytes).2.length ≤ bytes.length := by
  induction count generalizing low high bits bytes with
  | zero => simp [takeContinuations]
  | succ count ih =>
    cases bytes with
    | nil => simp [takeContinuations]
    | cons byte rest =>
      simp only [takeContinuations]
      split
      · exact Nat.le_succ_of_le (ih ..)
      · simp

/-- Cut bytes into code points; `none` stands for a part that is no code point. -/
def points (halves : Bool) : Bytes → List (Option Nat)
  | [] => []
  | byte :: rest =>
    if byte < 0x80 then some byte.toNat :: points halves rest
    else match Lead.ofByte? halves byte with
      | none => none :: points halves rest
      | some lead =>
        (takeContinuations lead.count lead.low lead.high lead.bits rest).1 ::
          points halves (takeContinuations lead.count lead.low lead.high lead.bits rest).2
termination_by bytes => bytes.length
decreasing_by
  · simp
  · simp
  · exact Nat.lt_succ_of_le (takeContinuations_length ..)

/-- Cut bytes into characters; `none` stands for a part that is no character. -/
def scalars (bytes : Bytes) : List (Option Char) :=
  (points false bytes).map fun point => point.map Char.ofNat

/-- Read bytes as text; a text with a malformed part is refused. -/
def decodeUtf8? (bytes : Bytes) : Option String :=
  ((scalars bytes).mapM id).map String.ofList

/-- Read bytes as a text in which halves of surrogate pairs may stand; a text with any other
malformed part is refused. -/
def decodeLooseUtf8? (bytes : Bytes) : Option LooseText :=
  ((points true bytes).mapM id).map fun points => ⟨points.map Letter.ofPoint⟩

/-- Read bytes as text, with a replacement character for each malformed part. -/
def decodeUtf8Lossy (bytes : Bytes) : String :=
  String.ofList ((scalars bytes).map fun scalar => scalar.getD '\uFFFD')

/-- The bytes of a text. -/
def encodeUtf8 (text : String) : Bytes := text.toUTF8.data.toList

end LintBench.Text
