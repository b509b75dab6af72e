import LintBench.Issue.Result

/-!
# Reading packed documents

MessagePack writes a value as a first byte that tells its type, and for small
values the value or its length as well, then the length and the content. Texts
are UTF-8, and keys are texts or bytes. A document is one value with nothing
after it.
-/

namespace LintBench.Host.MessagePack

open Text (Bytes)

/-- The number that bytes spell, the most significant byte first. -/
def bigEndian (bytes : Bytes) : Nat := bytes.foldl (fun n byte => n * 256 + byte.toNat) 0

/-- The number that bytes spell if the first bit counts negatively. -/
def signedBigEndian (bytes : Bytes) : Int :=
  let n := bigEndian bytes
  let wrap := twoTo (8 * bytes.length)
  if 2 * n < wrap then n else (n : Int) - wrap

/-- Take so many bytes off the front, if there are as many. -/
def takeBytes (count : Nat) (bytes : Bytes) : Option (Bytes × Bytes) :=
  if count ≤ bytes.length then some (bytes.take count, bytes.drop count) else none

/-- Take a number of so many bytes off the front. -/
def takeNumber (width : Nat) (bytes : Bytes) : Option (Nat × Bytes) :=
  (takeBytes width bytes).map fun (taken, rest) => (bigEndian taken, rest)

/-- What comes after the first byte of a value. -/
inductive Shape where
  /-- Nothing: the byte is the value. -/
  | whole (value : Value)
  /-- A natural number of so many bytes. -/
  | natural (width : Nat)
  /-- A number of so many bytes, with a sign. -/
  | signed (width : Nat)
  /-- A number of single precision. -/
  | single
  /-- A number of double precision. -/
  | double
  /-- A text whose length is given, or takes so many bytes. -/
  | text (length : Nat ⊕ Nat)
  /-- Bytes whose length takes so many bytes. -/
  | bytes (width : Nat)
  /-- A list whose length is given, or takes so many bytes. -/
  | list (length : Nat ⊕ Nat)
  /-- An object whose length is given, or takes so many bytes. -/
  | object (length : Nat ⊕ Nat)
  /-- An extension whose length is given, or takes so many bytes. -/
  | extension (length : Nat ⊕ Nat)

/-- What the first byte of a value tells; one byte is never used. -/
def Shape.ofByte? (byte : UInt8) : Option Shape :=
  let n := byte.toNat
  if n < 0x80 then some (.whole (.integer n))
  else if n < 0x90 then some (.object (.inl (n - 0x80)))
  else if n < 0xA0 then some (.list (.inl (n - 0x90)))
  else if n < 0xC0 then some (.text (.inl (n - 0xA0)))
  else if 0xE0 ≤ n then some (.whole (.integer ((n : Int) - 256)))
  else match n with
    | 0xC0 => some (.whole .null)
    | 0xC2 => some (.whole (.bool false))
    | 0xC3 => some (.whole (.bool true))
    | 0xC4 => some (.bytes 1)
    | 0xC5 => some (.bytes 2)
    | 0xC6 => some (.bytes 4)
    | 0xC7 => some (.extension (.inr 1))
    | 0xC8 => some (.extension (.inr 2))
    | 0xC9 => some (.extension (.inr 4))
    | 0xCA => some .single
    | 0xCB => some .double
    | 0xCC => some (.natural 1)
    | 0xCD => some (.natural 2)
    | 0xCE => some (.natural 4)
    | 0xCF => some (.natural 8)
    | 0xD0 => some (.signed 1)
    | 0xD1 => some (.signed 2)
    | 0xD2 => some (.signed 4)
    | 0xD3 => some (.signed 8)
    | 0xD4 => some (.extension (.inl 1))
    | 0xD5 => some (.extension (.inl 2))
    | 0xD6 => some (.extension (.inl 4))
    | 0xD7 => some (.extension (.inl 8))
    | 0xD8 => some (.extension (.inl 16))
    | 0xD9 => some (.text (.inr 1))
    | 0xDA => some (.text (.inr 2))
    | 0xDB => some (.text (.inr 4))
    | 0xDC => some (.list (.inr 2))
    | 0xDD => some (.list (.inr 4))
    | 0xDE => some (.object (.inr 2))
    | 0xDF => some (.object (.inr 4))
    | _ => none

/-- Read a length that is given or comes next. -/
def takeLength (length : Nat ⊕ Nat) (bytes : Bytes) : Option (Nat × Bytes) :=
  match length with
  | .inl given => some (given, bytes)
  | .inr width => takeNumber width bytes

/-- A time, if its nanoseconds are less than a second. -/
def timestamp? (seconds : Int) (nanoseconds : Nat) : Option Value :=
  if nanoseconds < 1000000000 then some (.timestamp seconds nanoseconds) else none

/-- The value of an extension. The code of minus one is a time, in one of three lengths; no other
negative code has a meaning. -/
def extensionValue (code : Int) (data : Bytes) : Option Value :=
  if code < -1 then none
  else if code ≠ -1 then some (.extension code data)
  else match data.length with
    | 4 => timestamp? (bigEndian data) 0
    | 8 => timestamp? (bigEndian data % twoTo 34 : Nat) (bigEndian data / twoTo 34)
    | 12 => timestamp? (signedBigEndian (data.drop 4)) (bigEndian (data.take 4))
    | _ => none

/-- A value as the key of a member, if it can be one. -/
def keyOf? : Value → Option MemberKey
  | .text name => some (.text name)
  | .bytes name => some (.bytes name)
  | _ => none

mutual

/-- Read a value off the front. At most `depth` lists and objects may stand inside each other, and
every call takes one from `fuel`. -/
def readValue : Nat → Nat → Bytes → Option (Value × Bytes)
  | 0, _, _ => none
  | _, _, [] => none
  | fuel + 1, depth, byte :: rest => do
    match ← Shape.ofByte? byte with
    | .whole value => return (value, rest)
    | .natural width =>
      let (n, after) ← takeNumber width rest
      return (.integer n, after)
    | .signed width =>
      let (taken, after) ← takeBytes width rest
      return (.integer (signedBigEndian taken), after)
    | .single =>
      let (bits, after) ← takeNumber 4 rest
      return (.decimal (.ofBits32 bits), after)
    | .double =>
      let (bits, after) ← takeNumber 8 rest
      return (.decimal (.ofBits64 bits), after)
    | .text length =>
      let (count, start) ← takeLength length rest
      let (taken, after) ← takeBytes count start
      return (.text (.ofString (← Text.decodeUtf8? taken)), after)
    | .bytes width =>
      let (count, start) ← takeNumber width rest
      let (taken, after) ← takeBytes count start
      return (.bytes taken, after)
    | .extension length =>
      let (count, start) ← takeLength length rest
      let (code, contents) ← takeBytes 1 start
      let (data, after) ← takeBytes count contents
      return (← extensionValue (signedBigEndian code) data, after)
    | .list length =>
      let (count, start) ← takeLength length rest
      if depth = 0 then none
      else
        let (items, after) ← readItems fuel (depth - 1) count start
        return (.list items, after)
    | .object length =>
      let (count, start) ← takeLength length rest
      if depth = 0 then none
      else
        let (members, after) ← readMembers fuel (depth - 1) count start []
        return (.object members, after)

/-- Read so many values. -/
def readItems : Nat → Nat → Nat → Bytes → Option (List Value × Bytes)
  | _, _, 0, bytes => some ([], bytes)
  | 0, _, _, _ => none
  | fuel + 1, depth, count + 1, bytes => do
    let (value, rest) ← readValue fuel depth bytes
    let (values, after) ← readItems fuel depth count rest
    return (value :: values, after)

/-- Read so many members, after those read already. -/
def readMembers : Nat → Nat → Nat → Bytes → List (MemberKey × Value) →
    Option (List (MemberKey × Value) × Bytes)
  | _, _, 0, bytes, members => some (members, bytes)
  | 0, _, _, _, _ => none
  | fuel + 1, depth, count + 1, bytes, members => do
    let (name, afterKey) ← readValue fuel depth bytes
    let key ← keyOf? name
    let (value, rest) ← readValue fuel depth afterKey
    readMembers fuel depth count rest (Value.setMember members key value)

end

/-- How many lists and objects may stand inside each other. -/
def deepest : Nat := 1024

/-- Read a whole document. Each call takes at least one of two bytes, so twice the length is fuel
enough. Why bytes are no document is not told apart. -/
def unpack : Unpacker := fun bytes =>
  match readValue (2 * bytes.length + 2) deepest bytes with
  | some (value, []) => .ok value
  | _ => .error "..."

end LintBench.Host.MessagePack
