import LintBench.Document.Json.Reader
import LintBench.Document.Json.Writer
import Mathlib.Tactic.Common

/-!
# Strings that are read back

A written string is read back as it was, if no half of a surrogate pair stands in
it. A character is written as itself, by a letter, by one unit, or by two units
that are the halves of a pair; read, these pieces make the character again,
whatever stands after them.
-/

namespace LintBench.Json

open Text (Letter lettersOf)

/-! ## Units -/

/-- A hexadecimal digit is read as its value. -/
theorem hexValue?_hexDigit {value : Nat} (small : value < 16) :
    hexValue? (.char (Text.hexDigit value)) = some value := by
  have each : ∀ value < 16, hexValue? (.char (Text.hexDigit value)) = some value := by decide
  exact each value small

/-- The four digits of a unit name it. -/
theorem exists_hexDigits {unit : Nat} (small : unit < 0x10000) : ∃ a b c d,
    Text.hexDigits 4 unit = [a, b, c, d] ∧
      hexUnit? (.char a) (.char b) (.char c) (.char d) = some unit := by
  refine ⟨_, _, _, _, rfl, ?_⟩
  rw [hexUnit?, hexValue?_hexDigit (Nat.mod_lt _ (by decide)),
    hexValue?_hexDigit (Nat.mod_lt _ (by decide)), hexValue?_hexDigit (Nat.mod_lt _ (by decide)),
    hexValue?_hexDigit (Nat.mod_lt _ (by decide))]
  simp only [Option.bind_eq_bind, Option.bind_some, Option.pure_def, Option.some.injEq]
  omega

/-- Pieces before others that are read. -/
def after (pieces : List Piece) (found : List Piece × List Letter) : List Piece × List Letter :=
  (pieces ++ found.1, found.2)

/-- The escape of a unit is read as the unit. -/
theorem readPieces_escapeUnit {unit : Nat} (small : unit < 0x10000) (rest : List Letter) :
    readPieces (lettersOf (escapeUnit unit) ++ rest) =
      (readPieces rest).map (after [.unit unit]) := by
  obtain ⟨a, b, c, d, digits, value⟩ := exists_hexDigits small
  have text : lettersOf (escapeUnit unit) ++ rest = .char '\\' :: .char 'u' :: .char a :: .char b ::
      .char c :: .char d :: rest := by
    rw [escapeUnit, digits]
    rfl
  rw [text, readPieces, value]
  cases readPieces rest <;> rfl

/-! ## Characters -/

/-- A character that stands for itself is read as itself. -/
theorem readPieces_char {c : Char} (notQuote : c ≠ '"') (notEscape : c ≠ '\\') (low : 32 ≤ c.toNat)
    (rest : List Letter) :
    readPieces (.char c :: rest) = (readPieces rest).map (after [.letter (.char c)]) := by
  rw [readPieces.eq_def]
  split
  · rename_i same
    cases same
  · rename_i same
    cases same
    exact absurd rfl notQuote
  · rename_i same
    cases same
    exact absurd rfl notEscape
  · rename_i same
    cases same
    exact absurd rfl notEscape
  · rename_i same
    cases same
    have stands : ¬ ((Letter.char c).point < 32 ∨ Letter.char c = .char '\\') := by
      rintro (under | same)
      · exact Nat.not_lt.2 low under
      · exact notEscape (Letter.char.inj same)
    rw [if_neg stands]
    cases readPieces rest <;> rfl

/-- A character is no half of a pair. -/
theorem toNat_bounds (c : Char) : c.toNat < 0xD800 ∨ 0xDFFF < c.toNat ∧ c.toNat < 0x110000 := c.valid

/-- The letter of a character's code point is the character. -/
theorem ofPoint_toNat (c : Char) : Letter.ofPoint c.toNat = .char c := by
  have outside := toNat_bounds c
  rw [Letter.ofPoint, dif_neg, Char.ofNat_toNat]
  rw [Letter.firstHalf]
  omega

/-- A unit that is no half makes its character. -/
theorem joinPieces_unit (c : Char) (more : List Piece) :
    joinPieces (.unit c.toNat :: more) = .char c :: joinPieces more := by
  have outside := toNat_bounds c
  have notHigh : Text.isHighSurrogate c.toNat = false := by
    rw [Text.isHighSurrogate, Bool.and_eq_false_iff, decide_eq_false_iff_not,
      decide_eq_false_iff_not]
    omega
  match more with
  | [] => simp only [joinPieces, ofPoint_toNat]
  | .letter letter :: rest => simp only [joinPieces, ofPoint_toNat]
  | .unit second :: rest =>
    rw [joinPieces, notHigh, Bool.false_and, if_neg Bool.false_ne_true, ofPoint_toNat]

/-- The two halves of a character past the first plane make it. -/
theorem joinPieces_halves {c : Char} (large : 0x10000 ≤ c.toNat) (more : List Piece) :
    joinPieces (.unit (0xD800 + (c.toNat - 0x10000) / 0x400) ::
        .unit (0xDC00 + (c.toNat - 0x10000) % 0x400) :: more) = .char c :: joinPieces more := by
  have bounds := toNat_bounds c
  have halves : (Text.isHighSurrogate (0xD800 + (c.toNat - 0x10000) / 0x400) &&
      Text.isLowSurrogate (0xDC00 + (c.toNat - 0x10000) % 0x400)) = true := by
    simp only [Text.isHighSurrogate, Text.isLowSurrogate, Bool.and_eq_true, decide_eq_true_eq]
    omega
  have whole : Text.pairPoint (0xD800 + (c.toNat - 0x10000) / 0x400)
      (0xDC00 + (c.toNat - 0x10000) % 0x400) = c.toNat := by
    unfold Text.pairPoint
    omega
  rw [joinPieces, if_pos halves, whole, ofPoint_toNat]

/-- The pieces of a written character are read, and make the character whatever stands after them.
-/
theorem exists_pieces (c : Char) : ∃ pieces,
    (∀ rest, readPieces (lettersOf (escapeChar c) ++ rest) =
      (readPieces rest).map (after pieces)) ∧
      ∀ more, joinPieces (pieces ++ more) = .char c :: joinPieces more := by
  have short {c name : Char} (escape : escapeChar c = ['\\', name]) (notUnit : name ≠ 'u')
      (named : simpleEscape? name = some c) : ∃ pieces,
      (∀ rest, readPieces (lettersOf (escapeChar c) ++ rest) =
        (readPieces rest).map (after pieces)) ∧
        ∀ more, joinPieces (pieces ++ more) = .char c :: joinPieces more := by
    refine ⟨[.letter (.char c)], fun rest => ?_, fun more => rfl⟩
    rw [escape]
    change readPieces (.char '\\' :: .char name :: rest) = _
    rw [readPieces, named]
    · cases readPieces rest <;> rfl
    · exact fun _ _ _ _ _ _ same => notUnit same
  unfold escapeChar
  split
  · exact @short _ '"' rfl (by decide) rfl
  · exact @short _ '\\' rfl (by decide) rfl
  · exact @short _ 'n' rfl (by decide) rfl
  · exact @short _ 'r' rfl (by decide) rfl
  · exact @short _ 't' rfl (by decide) rfl
  · exact @short _ 'b' rfl (by decide) rfl
  · exact @short _ 'f' rfl (by decide) rfl
  · rename_i notQuote notEscape _ _ _ _ _
    simp only
    split
    · rename_i printable
      exact ⟨[.letter (.char c)], readPieces_char notQuote notEscape printable.1, fun more => rfl⟩
    · split
      · rename_i small
        exact ⟨[.unit c.toNat], readPieces_escapeUnit small, joinPieces_unit c⟩
      · rename_i large
        have large := Nat.not_lt.1 large
        have bounds := toNat_bounds c
        refine ⟨[.unit _, .unit _], fun rest => ?_, joinPieces_halves large⟩
        rw [Text.lettersOf, List.map_append, List.append_assoc]
        change readPieces (lettersOf _ ++ (lettersOf _ ++ rest)) = _
        rw [readPieces_escapeUnit (by omega), readPieces_escapeUnit (by omega)]
        cases readPieces rest <;> rfl

/-! ## Strings -/

/-- The characters of a written string are read up to its closing quote. -/
theorem exists_pieces_of_chars (chars : List Char) (rest : List Letter) : ∃ pieces,
    readPieces (lettersOf (chars.flatMap escapeChar ++ ['"']) ++ rest) = some (pieces, rest) ∧
      joinPieces pieces = lettersOf chars := by
  induction chars with
  | nil => exact ⟨[], rfl, rfl⟩
  | cons c more ih =>
    obtain ⟨pieces, read, join⟩ := ih
    obtain ⟨first, readFirst, joinFirst⟩ := exists_pieces c
    refine ⟨first ++ pieces, ?_, ?_⟩
    · rw [List.flatMap_cons, List.append_assoc, Text.lettersOf, List.map_append, List.append_assoc]
      change readPieces (lettersOf (escapeChar c) ++ (lettersOf _ ++ rest)) = _
      rw [readFirst, read]
      rfl
    · rw [joinFirst, join]
      rfl

/-- What a string of characters is written as. -/
theorem writeString_ofString (text : String) :
    writeString (.ofString text) = '"' :: (text.toList.flatMap escapeChar ++ ['"']) := by
  rw [writeString, LooseText.ofString, Text.lettersOf, List.flatMap_map]
  rfl

/-- A written string is read back. -/
theorem readString_writeString (text : String) (rest : List Letter) :
    readString (lettersOf (text.toList.flatMap escapeChar ++ ['"']) ++ rest) =
      .ok (.ofString text, rest) := by
  obtain ⟨pieces, read, join⟩ := exists_pieces_of_chars text.toList rest
  rw [readString, read]
  simp only [join]
  rfl

end LintBench.Json
