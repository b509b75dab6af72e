import LintBench.Proofs.Document.RoundTrip

/-!
# The bytes of written documents

A written document is all of ASCII and holds no zero byte, so its encoding is found
and its bytes are read as its text.
-/

namespace LintBench

/-! ## Texts of ASCII -/

namespace Text

/-- Whether a character is one of ASCII, and not the one that is zero. -/
def IsAscii (c : Char) : Prop := 0 < c.toNat ∧ c.toNat < 128

instance (c : Char) : Decidable (IsAscii c) := inferInstanceAs (Decidable (_ ∧ _))

/-- Whether a text is of ASCII can be computed. -/
theorem isAscii_of_all {text : List Char} (all : (text.all fun c => IsAscii c) = true) :
    ∀ c ∈ text, IsAscii c :=
  fun c member => of_decide_eq_true (List.all_eq_true.1 all c member)

/-- An ASCII character is the byte with its number. -/
theorem toNat_toUInt8 {c : Char} (ascii : IsAscii c) : c.toUInt8.toNat = c.toNat := by
  have below : c.val.toNat < 256 := Nat.lt_trans ascii.2 (by decide)
  change c.val.toUInt8.toNat = _
  rw [UInt32.toNat_toUInt8]
  exact Nat.mod_eq_of_lt below

/-- A text of ASCII has one byte for each character. -/
theorem encodeUtf8_of_ascii {text : List Char} (ascii : ∀ c ∈ text, IsAscii c) :
    encodeUtf8 (String.ofList text) = text.map Char.toUInt8 := by
  have single (c : Char) (member : c ∈ text) : String.utf8EncodeChar c = [c.toUInt8] := by
    apply String.utf8EncodeChar_eq_singleton
    rw [Char.utf8Size_eq_one_iff]
    exact UInt32.le_iff_toNat_le.2 (Nat.le_of_lt_succ (ascii c member).2)
  rw [encodeUtf8, String.toUTF8, String.toByteArray_ofList, List.utf8Encode,
    List.data_toByteArray, List.toList_toArray, List.flatMap_congr single, List.map_eq_flatMap]

/-- The bytes of a text of ASCII are cut into its characters. -/
theorem points_of_ascii (halves : Bool) {text : List Char} (ascii : ∀ c ∈ text, IsAscii c) :
    points halves (text.map Char.toUInt8) = text.map fun c => some c.toNat := by
  induction text with
  | nil => rw [List.map_nil, List.map_nil, points]
  | cons c rest ih =>
    obtain ⟨first, others⟩ := List.forall_mem_cons.1 ascii
    have below : c.toUInt8 < 0x80 := by
      rw [UInt8.lt_iff_toNat_lt, toNat_toUInt8 first]
      exact first.2
    rw [List.map_cons, List.map_cons, points, if_pos below, toNat_toUInt8 first, ih others]

/-- Bytes without a zero one show the encoding of one byte for a character. -/
theorem encodingOfZeros_of_false {zeros : List Bool} (none : ∀ zero ∈ zeros, zero = false) :
    encodingOfZeros zeros = .utf8 := by
  match zeros with
  | [] => rfl
  | [first] => cases first <;> rfl
  | first :: second :: rest =>
    have notFirst : first = false := none first List.mem_cons_self
    have notSecond : second = false := none second (List.mem_cons_of_mem _ List.mem_cons_self)
    subst notFirst notSecond
    match rest with
    | [] | [_] | _ :: _ :: _ => rfl

/-- No byte-order mark starts with a byte of ASCII, but for the zero byte. -/
theorem exists_cons_of_mem_byteOrderMarks {entry : Bytes × Encoding}
    (member : entry ∈ byteOrderMarks) :
    ∃ first rest, entry.1 = first :: rest ∧ (first.toNat = 0 ∨ 128 ≤ first.toNat) := by
  simp only [byteOrderMarks, List.mem_cons, List.not_mem_nil, or_false] at member
  rcases member with rfl | rfl | rfl | rfl | rfl
  all_goals exact ⟨_, _, rfl, by decide⟩

/-- The bytes of a text of ASCII are those of ASCII. -/
theorem bounds_of_ascii {text : List Char} (ascii : ∀ c ∈ text, IsAscii c) :
    ∀ byte ∈ text.map Char.toUInt8, 0 < byte.toNat ∧ byte.toNat < 128 := by
  intro byte member
  obtain ⟨c, inside, rfl⟩ := List.mem_map.1 member
  rw [toNat_toUInt8 (ascii c inside)]
  exact ascii c inside

/-- Bytes of ASCII that are not zero start with no byte-order mark. -/
theorem find?_byteOrderMarks_of_ascii {text : List Char} (ascii : ∀ c ∈ text, IsAscii c) :
    byteOrderMarks.find? (fun (mark, _) => mark.isPrefixOf (text.map Char.toUInt8)) = none := by
  refine List.find?_eq_none.2 fun entry member starts => ?_
  obtain ⟨first, rest, mark, outside⟩ := exists_cons_of_mem_byteOrderMarks member
  obtain ⟨more, whole⟩ := List.isPrefixOf_iff_prefix.1 starts
  have inside : first ∈ text.map Char.toUInt8 := by
    rw [← whole, mark]
    exact List.mem_cons_self
  have ownBounds := bounds_of_ascii ascii first inside
  omega

/-- Bytes of ASCII that are not zero show no other encoding than the usual one. -/
theorem detectEncoding_of_ascii {text : List Char} (ascii : ∀ c ∈ text, IsAscii c) :
    detectEncoding (text.map Char.toUInt8) = (.utf8, text.map Char.toUInt8) := by
  have unzeroed : ∀ zero ∈ (text.map Char.toUInt8).map (· == 0), zero = false := by
    intro zero member
    obtain ⟨byte, inside, rfl⟩ := List.mem_map.1 member
    refine beq_false_of_ne fun same => ?_
    have positive := (bounds_of_ascii ascii byte inside).1
    rw [same] at positive
    exact Nat.lt_irrefl 0 positive
  rw [detectEncoding, find?_byteOrderMarks_of_ascii ascii]
  simp only [encodingOfZeros_of_false unzeroed]

/-- A document of ASCII is read as its text. -/
theorem decodeDocument?_of_ascii {text : List Char} (ascii : ∀ c ∈ text, IsAscii c) :
    decodeDocument? (encodeUtf8 (String.ofList text)) = some (.ofString (String.ofList text)) := by
  have letters : (text.map fun c => some c.toNat).mapM id = some (text.map Char.toNat) := by
    induction text with
    | nil => rfl
    | cons c rest ih =>
      rw [List.map_cons, List.mapM_cons, ih (List.forall_mem_cons.1 ascii).2]
      rfl
  have back : (text.map Char.toNat).map Letter.ofPoint = lettersOf text := by
    rw [List.map_map, lettersOf]
    exact List.map_congr_left fun c _ => Json.ofPoint_toNat c
  rw [encodeUtf8_of_ascii ascii, decodeDocument?, detectEncoding_of_ascii ascii]
  simp only [decodeLooseUtf8?, points_of_ascii true ascii, letters, Option.map_some, back,
    LooseText.ofString, String.toList_ofList]

end Text

/-! ## Written documents -/

namespace Json

open Text (IsAscii isAscii_of_all)

/-- Hexadecimal digits are ASCII. -/
theorem isAscii_hexDigits (width number : Nat) : ∀ c ∈ Text.hexDigits width number, IsAscii c := by
  have each : ∀ value < 16, IsAscii (Text.hexDigit value) := by decide
  induction width generalizing number with
  | zero => simp [Text.hexDigits]
  | succ width ih =>
    rw [Text.hexDigits]
    refine List.forall_mem_append.2 ⟨ih _, List.forall_mem_singleton.2 (each _ ?_)⟩
    exact Nat.mod_lt _ (by decide)

/-- The escape of a code unit is ASCII. -/
theorem isAscii_escapeUnit (unit : Nat) : ∀ c ∈ escapeUnit unit, IsAscii c :=
  List.forall_mem_cons.2 ⟨by decide, List.forall_mem_cons.2 ⟨by decide, isAscii_hexDigits 4 unit⟩⟩

/-- The escape of a character is ASCII. -/
theorem isAscii_escapeChar (c : Char) : ∀ letter ∈ escapeChar c, IsAscii letter := by
  unfold escapeChar
  split
  case h_8 =>
    simp only
    split
    · rename_i printable
      refine List.forall_mem_singleton.2 ⟨?_, ?_⟩ <;> omega
    · split
      · exact isAscii_escapeUnit _
      · exact List.forall_mem_append.2 ⟨isAscii_escapeUnit _, isAscii_escapeUnit _⟩
  all_goals exact isAscii_of_all (by decide)

/-- A written string is of ASCII. -/
theorem isAscii_writeString (text : String) :
    ∀ c ∈ writeString (.ofString text), IsAscii c := by
  rw [writeString_ofString]
  refine List.forall_mem_cons.2 ⟨by decide, List.forall_mem_append.2 ⟨?_, isAscii_of_all (by decide)⟩⟩
  intro c member
  obtain ⟨letter, -, inside⟩ := List.mem_flatMap.1 member
  exact isAscii_escapeChar letter c inside

/-- A line end with the indentation after it is ASCII. -/
theorem isAscii_newLine (depth : Nat) : ∀ c ∈ newLine depth, IsAscii c := by
  refine List.forall_mem_cons.2 ⟨by decide, fun c member => ?_⟩
  rw [List.eq_of_mem_replicate member]
  decide

/-- Parts of ASCII are of ASCII together. -/
theorem isAscii_bracket {opening closing : Char} (first : IsAscii opening) (last : IsAscii closing)
    (depth : Nat) {parts : List (List Char)} (each : ∀ part ∈ parts, ∀ c ∈ part, IsAscii c) :
    ∀ c ∈ bracket opening closing depth parts, IsAscii c := by
  have inner : ∀ c ∈ lines (depth + 1) parts, IsAscii c := by
    induction parts with
    | nil => simp [lines]
    | cons part rest ih =>
      obtain ⟨here, others⟩ := List.forall_mem_cons.1 each
      cases rest with
      | nil =>
        rw [lines_singleton]
        exact here
      | cons next rest =>
        rw [lines_cons_cons]
        exact List.forall_mem_append.2 ⟨here, List.forall_mem_cons.2
          ⟨by decide, List.forall_mem_append.2 ⟨isAscii_newLine _, ih others⟩⟩⟩
  rw [bracket]
  split
  · exact List.forall_mem_cons.2 ⟨first, List.forall_mem_singleton.2 last⟩
  · rw [List.append_assoc, List.append_assoc]
    refine List.forall_mem_cons.2 ⟨first, ?_⟩
    exact List.forall_mem_append.2 ⟨isAscii_newLine _, List.forall_mem_append.2 ⟨inner,
      List.forall_mem_append.2 ⟨isAscii_newLine _, List.forall_mem_singleton.2 last⟩⟩⟩

/-- A shown integer is ASCII. -/
theorem isAscii_showInteger (number : Int) : ∀ c ∈ (Text.showInteger number).toList, IsAscii c := by
  have digits (size : Nat) : ∀ c ∈ (toString size).toList, IsAscii c := by
    intro c member
    rw [Nat.toString_eq_ofList_toDigits, String.toList_ofList] at member
    have digit := Nat.isDigit_of_mem_toDigits (by decide) (by decide) member
    rw [Char.isDigit, Bool.and_eq_true, decide_eq_true_eq, decide_eq_true_eq] at digit
    obtain ⟨low, high⟩ := digit
    rw [ge_iff_le, UInt32.le_iff_toNat_le] at low
    rw [UInt32.le_iff_toNat_le] at high
    exact ⟨Nat.lt_of_lt_of_le (by decide) low, Nat.lt_of_le_of_lt high (by decide)⟩
  cases number with
  | ofNat size => exact digits size
  | negSucc size =>
    rw [Text.showInteger, String.toList_append]
    exact List.forall_mem_append.2 ⟨isAscii_of_all (by decide), digits _⟩

/-- A written document is of ASCII. -/
theorem ReadsBack.isAscii {depth : Nat} {value : Value} (back : ReadsBack depth value)
    (indent : Nat) : ∀ c ∈ writeValue indent value, IsAscii c := by
  induction back generalizing indent with
  | null =>
    change ∀ c ∈ "null".toList, IsAscii c
    exact isAscii_of_all (by decide)
  | bool value =>
    change ∀ c ∈ (if value then "true" else "false").toList, IsAscii c
    cases value <;> exact isAscii_of_all (by decide)
  | @integer depth number short => exact isAscii_showInteger number
  | text text => exact isAscii_writeString text
  | list each ih =>
    rw [writeValue, writeItems_eq_map]
    refine isAscii_bracket (by decide) (by decide) _ ?_
    rintro part member
    obtain ⟨item, inside, rfl⟩ := List.mem_map.1 member
    exact ih item inside _
  | object named distinct each ih =>
    rw [writeValue, writeMembers_eq_map]
    refine isAscii_bracket (by decide) (by decide) _ ?_
    rintro part inside
    obtain ⟨member, given, rfl⟩ := List.mem_map.1 inside
    obtain ⟨key, same⟩ := named member given
    rw [writeMember, same, writeKey]
    exact List.forall_mem_append.2 ⟨isAscii_writeString key, List.forall_mem_cons.2
      ⟨by decide, List.forall_mem_cons.2 ⟨by decide, ih member given _⟩⟩⟩

/-- The bytes of a written document are read back as the document. -/
theorem readBytes_write {value : Value} (back : ReadsBack deepest value) :
    readBytes (Text.encodeUtf8 (write value ++ "\n")) = .ok value := by
  have ascii : ∀ c ∈ writeValue 0 value ++ ['\n'], IsAscii c :=
    List.forall_mem_append.2 ⟨back.isAscii 0, isAscii_of_all (by decide)⟩
  have text : write value ++ "\n" = String.ofList (writeValue 0 value ++ ['\n']) := by
    rw [write, String.ofList_append]
  have read := read_write back
  rw [text] at read ⊢
  rw [readBytes, Text.decodeDocument?_of_ascii ascii]
  simp only [read]
  rfl

end Json

end LintBench
