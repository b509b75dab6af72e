import LintBench.Proofs.Document.Strings
import Mathlib.Algebra.Group.Nat.Defs
import Mathlib.Data.List.Nodup

/-!
# Documents that are read back

A written document is read back as it was: its layout is no more than white space
between the tokens, and each token ends where the next one or white space starts.
This holds of values of the format whose texts are strings, whose numbers are whole
and short enough to be read, whose keys differ, and which do not stand too deep in
each other.
-/

namespace LintBench.Json

open Text (Letter lettersOf)

/-- Whether a whole number has no more digits than a numeral may have. -/
def IsShort (number : Int) : Prop := number.natAbs < 10 ^ Text.digitLimit

/-- Whether a value is read back if so many lists and objects may stand in each other. -/
inductive ReadsBack : Nat → Value → Prop where
  /-- Nothing. -/
  | null {depth : Nat} : ReadsBack depth .null
  /-- A truth value. -/
  | bool {depth : Nat} (value : Bool) : ReadsBack depth (.bool value)
  /-- A whole number that is short enough. -/
  | integer {depth : Nat} {number : Int} (short : IsShort number) : ReadsBack depth (.integer number)
  /-- A text without halves of surrogate pairs. -/
  | text {depth : Nat} (text : String) : ReadsBack depth (.text (.ofString text))
  /-- A list of such values. -/
  | list {depth : Nat} {items : List Value} (each : ∀ item ∈ items, ReadsBack depth item) :
      ReadsBack (depth + 1) (.list items)
  /-- An object of such values by different texts. -/
  | object {depth : Nat} {members : List (MemberKey × Value)}
      (named : ∀ member ∈ members, ∃ key, member.1 = .text (.ofString key))
      (distinct : (members.map Prod.fst).Nodup)
      (each : ∀ member ∈ members, ReadsBack depth member.2) :
      ReadsBack (depth + 1) (.object members)

/-! ## White space -/

/-- No characters are no letters. -/
@[simp] theorem lettersOf_nil : lettersOf [] = [] := rfl

/-- The letters of a character and those after it. -/
@[simp] theorem lettersOf_cons (c : Char) (text : List Char) :
    lettersOf (c :: text) = .char c :: lettersOf text := rfl

/-- The letters of two texts in a row. -/
@[simp] theorem lettersOf_append (one other : List Char) :
    lettersOf (one ++ other) = lettersOf one ++ lettersOf other := List.map_append

/-- White space ends before anything else. -/
theorem skipSpace_cons {c : Char} (notSpace : isSpace c = false) (rest : List Letter) :
    skipSpace (.char c :: rest) = .char c :: rest := by
  rw [skipSpace, List.dropWhile_cons_of_neg]
  simpa [Letter.passes] using notSpace

/-- The start of a line is white space. -/
theorem skipSpace_newLine (depth : Nat) (rest : List Letter) :
    skipSpace (lettersOf (newLine depth) ++ rest) = skipSpace rest := by
  have blank : ∀ letter ∈ lettersOf (newLine depth), Letter.passes isSpace letter = true := by
    intro letter member
    obtain ⟨c, inside, rfl⟩ := List.mem_map.1 member
    rcases List.mem_cons.1 inside with rfl | inside
    · rfl
    · rw [List.eq_of_mem_replicate inside]
      rfl
  rw [skipSpace, List.dropWhile_append_of_pos blank, skipSpace]

/-! ## Numbers -/

/-- Whether a text does not go on with a number. -/
def EndsValue (rest : List Letter) : Prop :=
  ∀ c, rest.head? = some (.char c) → isDigit c = false ∧ c ≠ '.' ∧ c ≠ 'e' ∧ c ≠ 'E'

/-- A character that cannot go on a number ends a value. -/
theorem endsValue_cons {c : Char} (notDigit : isDigit c = false) (notPoint : c ≠ '.')
    (notSmall : c ≠ 'e') (notLarge : c ≠ 'E') (rest : List Letter) :
    EndsValue (.char c :: rest) := by
  intro other same
  cases same
  exact ⟨notDigit, notPoint, notSmall, notLarge⟩

/-- A line end ends a value. -/
theorem endsValue_newLine (depth : Nat) (rest : List Letter) :
    EndsValue (lettersOf (newLine depth) ++ rest) :=
  endsValue_cons rfl (by decide) (by decide) (by decide) _

/-- The digits of a numeral are taken up to what is none. -/
theorem takeDigits_append {digits : List Char} {rest : List Letter}
    (each : ∀ c ∈ digits, isDigit c = true) (ends : EndsValue rest) :
    takeDigits (lettersOf digits ++ rest) = (digits, rest) := by
  induction digits with
  | nil =>
    rw [lettersOf_nil, List.nil_append]
    match rest with
    | [] => rfl
    | .half index :: more => rfl
    | .char c :: more =>
      obtain ⟨notDigit, -⟩ := ends c rfl
      rw [takeDigits, notDigit, if_neg Bool.false_ne_true]
  | cons c more ih =>
    obtain ⟨digit, others⟩ := List.forall_mem_cons.1 each
    rw [lettersOf_cons, List.cons_append, takeDigits, digit, if_pos rfl, ih others]

/-- A number is written in digits. -/
theorem isDigit_of_mem_toDigits {number : Nat} {c : Char} (member : c ∈ Nat.toDigits 10 number) :
    isDigit c = true := by
  have digit := Nat.isDigit_of_mem_toDigits (by decide) (by decide) member
  simpa [Char.isDigit, isDigit, Char.le_def] using digit

/-- A numeral other than zero does not start with zero. -/
theorem exists_cons_toDigits {number : Nat} (positive : number ≠ 0) :
    ∃ c more, Nat.toDigits 10 number = c :: more ∧ c ≠ '0' := by
  induction number using Nat.strongRecOn with
  | ind number ih =>
    rw [Nat.toDigits_eq_if (by decide)]
    split
    · rename_i small
      refine ⟨_, _, rfl, ?_⟩
      have each : ∀ digit < 10, digit ≠ 0 → Nat.digitChar digit ≠ '0' := by decide
      exact each number small positive
    · obtain ⟨c, more, digits, first⟩ := ih (number / 10) (by omega) (by omega)
      rw [digits]
      exact ⟨c, _, List.cons_append, first⟩

/-- The digits of a number are taken as the whole part of it. -/
theorem takeWhole_toDigits (number : Nat) {rest : List Letter} (ends : EndsValue rest) :
    takeWhole (lettersOf (Nat.toDigits 10 number) ++ rest) = (Nat.toDigits 10 number, rest) := by
  by_cases zero : number = 0
  · subst zero
    rfl
  · have all : ∀ c ∈ Nat.toDigits 10 number, isDigit c = true :=
      fun c member => isDigit_of_mem_toDigits member
    have taken := takeDigits_append all ends
    obtain ⟨c, more, digits, first⟩ := exists_cons_toDigits zero
    rw [digits] at taken ⊢
    rw [lettersOf_cons, List.cons_append, takeWhole] at *
    · exact taken
    · exact fun _ same => first (Letter.char.inj (List.cons.inj same).1)

/-- The digits of a number spell it. -/
theorem numberOf_toDigits (number : Nat) : numberOf (Nat.toDigits 10 number) = number := by
  have whole := Nat.ofDigitChars_ten_toDigits (n := number)
  rw [Nat.ofDigitChars_eq_foldl] at whole
  rw [numberOf]
  conv_rhs => rw [← whole]
  simp only [Nat.mul_comm]
  rfl

/-- A short numeral is read as its number. -/
theorem readNumber_toDigits (negative : Bool) {number : Nat} {rest : List Letter}
    (short : (Nat.toDigits 10 number).length ≤ Text.digitLimit) (ends : EndsValue rest) :
    readNumber negative (lettersOf (Nat.toDigits 10 number) ++ rest) =
      .ok (.integer (if negative then -(number : Int) else number), rest) := by
  have some : (Nat.toDigits 10 number).isEmpty = false := by
    simp [Nat.toDigits_ne_nil]
  have noFraction : readFraction rest = (none, rest) := by
    rw [readFraction.eq_def]
    split
    · exact absurd rfl (ends '.' rfl).2.1
    · rfl
  have noExponent : readExponent rest = (none, rest) := by
    rw [readExponent.eq_def]
    split
    · rename_i c more
      obtain ⟨-, -, notSmall, notLarge⟩ := ends c rfl
      rw [if_neg (by simp [notSmall, notLarge])]
    · rfl
  rw [readNumber, takeWhole_toDigits number ends]
  simp only [some, noFraction, noExponent, numberOf_toDigits, if_neg (Nat.not_lt.2 short)]
  rfl

/-- No word starts with a digit, nor with a sign and a digit. -/
theorem findSome?_words_digit {c : Char} (digit : isDigit c = true) (more : List Letter) :
    (words.findSome? fun (word, value) => (takeWord word (.char c :: more)).map (value, ·)) = none ∧
      (words.findSome? fun (word, value) =>
        (takeWord word (.char '-' :: .char c :: more)).map (value, ·)) = none := by
  have other (name : Char) (letter : isDigit name = false) : ¬ name = c := by
    rintro rfl
    rw [digit] at letter
    cases letter
  have notN := other 'n' rfl
  have notT := other 't' rfl
  have notF := other 'f' rfl
  have notUpper := other 'N' rfl
  have notI := other 'I' rfl
  have notSign := other '-' rfl
  constructor <;> simp [words, takeWord, lettersOf, notN, notT, notF, notUpper, notI, notSign]

/-- A short whole number is read back. -/
theorem readScalar_integer {number : Int} {rest : List Letter} (short : IsShort number)
    (ends : EndsValue rest) :
    readScalar (lettersOf (Text.showInteger number).toList ++ rest) =
      .ok (.integer number, rest) := by
  have length {size : Nat} (small : size < 10 ^ Text.digitLimit) :
      (Nat.toDigits 10 size).length ≤ Text.digitLimit :=
    (Nat.length_toDigits_le_iff (by decide) (by decide)).2 small
  have digits (size : Nat) : ∃ c more, Nat.toDigits 10 size = c :: more ∧ isDigit c = true := by
    cases spelled : Nat.toDigits 10 size with
    | nil => exact absurd spelled Nat.toDigits_ne_nil
    | cons c more =>
      exact ⟨c, more, rfl, isDigit_of_mem_toDigits (spelled ▸ List.mem_cons_self)⟩
  cases number with
  | ofNat size =>
    have small : size < 10 ^ Text.digitLimit := short
    have read := readNumber_toDigits false (length small) ends
    obtain ⟨c, more, spelled, digit⟩ := digits size
    rw [Text.showInteger, Nat.toString_eq_ofList_toDigits, String.toList_ofList]
    rw [spelled] at read ⊢
    rw [lettersOf_cons, List.cons_append] at read ⊢
    rw [readScalar, (findSome?_words_digit digit _).1]
    · exact read
    · intro _ same
      cases same
      cases digit
    · intro _ same
      cases same
      cases digit
  | negSucc size =>
    have small : size + 1 < 10 ^ Text.digitLimit := short
    have read := readNumber_toDigits true (length small) ends
    obtain ⟨c, more, spelled, digit⟩ := digits (size + 1)
    rw [spelled] at read
    rw [Text.showInteger, String.toList_append, Nat.toString_eq_ofList_toDigits, spelled]
    simp only [String.toList_ofList]
    change readScalar (.char '-' :: .char c :: (lettersOf more ++ rest)) = _
    rw [readScalar, (findSome?_words_digit digit _).2]
    exact read

/-! ## Values -/

/-- What holds no other values is read as such. -/
theorem readValue_scalar (fuel depth : Nat) {c : Char} (noList : c ≠ '[') (noObject : c ≠ '\x7b')
    (rest : List Letter) :
    readValue (fuel + 1) depth (.char c :: rest) = readScalar (.char c :: rest) := by
  rw [readValue.eq_def]
  split
  · rename_i same
    cases same
  · rename_i same
    cases same
    exact absurd rfl noList
  · rename_i same
    cases same
    exact absurd rfl noObject
  · rename_i same
    cases same
    exact absurd rfl noList
  · rename_i same
    cases same
    exact absurd rfl noObject
  · rfl

/-- Whether a value that is written so many steps in is read back off the front of a text, by fuel
for each of its letters. -/
structure IsRead (depth indent : Nat) (value : Value) : Prop where
  /-- It starts neither with white space nor with the end of a list. -/
  starts : ∃ c more, writeValue indent value = c :: more ∧ isSpace c = false ∧ c ≠ ']'
  /-- It is read up to its end. -/
  read : ∀ {fuel rest}, 2 * (writeValue indent value).length ≤ fuel → EndsValue rest →
    readValue fuel depth (lettersOf (writeValue indent value) ++ rest) = .ok (value, rest)

/-- A token that no value goes on with ends a value, and white space ends before it. -/
theorem endsValue_token {c : Char} (token : c = ',' ∨ c = ']' ∨ c = '\x7d') (rest : List Letter) :
    EndsValue (.char c :: rest) ∧ skipSpace (.char c :: rest) = .char c :: rest := by
  rcases token with rfl | rfl | rfl
  all_goals exact ⟨endsValue_cons rfl (by decide) (by decide) (by decide) rest, skipSpace_cons rfl rest⟩

/-! ### Lists -/

section Lists

variable {depth indent : Nat}

/-- Items are written one by one. -/
theorem writeItems_eq_map (items : List Value) :
    writeItems indent items = items.map (writeValue indent) := by
  induction items with
  | nil => rw [writeItems, List.map_nil]
  | cons item rest ih => rw [writeItems, List.map_cons, ih]

/-- The parts of a list or an object, each on a line of its own. -/
def lines (indent : Nat) (parts : List (List Char)) : List Char :=
  List.intercalate (',' :: newLine indent) parts

/-- A part is followed by a comma and the next line. -/
theorem lines_cons_cons (part next : List Char) (rest : List (List Char)) :
    lines indent (part :: next :: rest) =
      part ++ ',' :: (newLine indent ++ lines indent (next :: rest)) := by
  rw [lines, List.intercalate_cons_cons, List.append_assoc, List.cons_append]
  rfl

/-- A single part stands alone. -/
theorem lines_singleton (part : List Char) : lines indent [part] = part :=
  List.intercalate_singleton

section Start

variable (indent)

/-- Written parts start as the first one does. -/
theorem exists_lines_cons (part : List Char) (rest : List (List Char)) :
    ∃ more, lines indent (part :: rest) = part ++ more := by
  cases rest with
  | nil => exact ⟨[], by rw [lines_singleton, List.append_nil]⟩
  | cons next rest => exact ⟨_, lines_cons_cons part next rest⟩

/-- Lines start with the first character of their first part. -/
theorem exists_lettersOf_lines {part more : List Char} {c : Char} (start : part = c :: more)
    (rest : List (List Char)) (after : List Letter) :
    ∃ tail, lettersOf (lines indent (part :: rest)) ++ after = .char c :: tail := by
  obtain ⟨others, whole⟩ := exists_lines_cons indent part rest
  rw [whole, start]
  exact ⟨_, rfl⟩

/-- Nothing is skipped before parts the first of which starts with no white space. -/
theorem skipSpace_lines {part more : List Char} {c : Char} (start : part = c :: more)
    (notSpace : isSpace c = false) (rest : List (List Char)) (after : List Letter) :
    skipSpace (lettersOf (lines indent (part :: rest)) ++ after) =
      lettersOf (lines indent (part :: rest)) ++ after := by
  obtain ⟨tail, whole⟩ := exists_lettersOf_lines indent start rest after
  rw [whole]
  exact skipSpace_cons notSpace tail

end Start

/-- The written items of a list are read back up to its end. -/
theorem readItems_lines {items : List Value} (some : items ≠ [])
    (each : ∀ item ∈ items, IsRead depth indent item) {close fuel : Nat} {rest : List Letter}
    (enough : 2 * (lines indent (items.map (writeValue indent))).length + 1 ≤ fuel) :
    readItems fuel depth (lettersOf (lines indent (items.map (writeValue indent))) ++
      (lettersOf (newLine close) ++ .char ']' :: rest)) = .ok (items, rest) := by
  induction items generalizing fuel with
  | nil => exact absurd rfl some
  | cons item others ih =>
    obtain ⟨first, later⟩ := List.forall_mem_cons.1 each
    obtain ⟨fuel, rfl⟩ : ∃ less, fuel = less + 1 := ⟨fuel - 1, by omega⟩
    rw [List.map_cons] at enough ⊢
    cases others with
    | nil =>
      rw [List.map_nil, lines_singleton] at enough ⊢
      have short : 2 * (writeValue indent item).length ≤ fuel := by omega
      have value := first.read short (endsValue_newLine close (.char ']' :: rest))
      have stop := (endsValue_token (.inr (.inl rfl)) rest).2
      rw [readItems, value]
      simp only [bind, Except.bind, skipSpace_newLine, stop]
      rfl
    | cons next others =>
      rw [List.map_cons, lines_cons_cons] at enough ⊢
      rw [← List.map_cons] at enough ⊢
      simp only [List.length_append, List.length_cons] at enough
      simp only [lettersOf_append, lettersOf_cons, List.append_assoc, List.cons_append]
      obtain ⟨comma, stop⟩ := endsValue_token (c := ',') (.inl rfl) (lettersOf (newLine indent) ++
        (lettersOf (lines indent ((next :: others).map (writeValue indent))) ++
          (lettersOf (newLine close) ++ .char ']' :: rest)))
      have short : 2 * (writeValue indent item).length ≤ fuel := by omega
      have value := first.read short comma
      obtain ⟨c, more, start, notSpace, -⟩ := (later next List.mem_cons_self).starts
      have skipped := skipSpace_lines indent start notSpace
        (others.map (writeValue indent)) (lettersOf (newLine close) ++ .char ']' :: rest)
      rw [← List.map_cons] at skipped
      have left : 2 * (lines indent ((next :: others).map (writeValue indent))).length + 1 ≤
          fuel := by
        omega
      have values := ih (List.cons_ne_nil _ _) later left
      rw [readItems, value]
      simp only [bind, Except.bind, stop, skipSpace_newLine, skipped, values]
      rfl

end Lists

/-! ### Objects -/

section Objects

variable {depth indent : Nat}

/-- A member as it is written. -/
def writeMember (indent : Nat) (member : MemberKey × Value) : List Char :=
  writeKey member.1 ++ ':' :: ' ' :: writeValue indent member.2

/-- Members are written one by one. -/
theorem writeMembers_eq_map (members : List (MemberKey × Value)) :
    writeMembers indent members = members.map (writeMember indent) := by
  induction members with
  | nil => rw [writeMembers, List.map_nil]
  | cons member rest ih =>
    rw [writeMembers, List.map_cons, ih]
    rfl

variable (indent) in
/-- A written member under a text starts with a quote. -/
theorem exists_writeMember_cons {member : MemberKey × Value}
    (named : ∃ key, member.1 = .text (.ofString key)) :
    ∃ more, writeMember indent member = '"' :: more := by
  obtain ⟨key, same⟩ := named
  exact ⟨_, by rw [writeMember, same, writeKey, writeString_ofString, List.cons_append]⟩

/-- A member under a key that is not there yet is added at the end. -/
theorem setMember_of_absent {members : List (MemberKey × Value)} {key : MemberKey} {value : Value}
    (absent : key ∉ members.map Prod.fst) :
    Value.setMember members key value = members ++ [(key, value)] := by
  induction members with
  | nil => rfl
  | cons member rest ih =>
    obtain ⟨other, present⟩ := member
    rw [List.map_cons, List.mem_cons, not_or] at absent
    rw [Value.setMember, if_neg (Ne.symm absent.1), ih absent.2, List.cons_append]

/-- The key and the value of a written member are read back. -/
theorem readMembers_member {key : String} {value : Value} (read : IsRead depth indent value)
    {fuel : Nat} {seen : List (MemberKey × Value)} {rest : List Letter}
    (enough : 2 * (writeValue indent value).length ≤ fuel) (ends : EndsValue rest) :
    readMembers (fuel + 1) depth
        (lettersOf (writeMember indent (.text (.ofString key), value)) ++ rest) seen =
      match skipSpace rest with
      | .char ',' :: more => readMembers fuel depth (skipSpace more)
          (Value.setMember seen (.text (.ofString key)) value)
      | .char '\x7d' :: after =>
        .ok (Value.setMember seen (.text (.ofString key)) value, after)
      | _ => .error .malformed := by
  obtain ⟨c, more, start, notSpace, -⟩ := read.starts
  have colon : skipSpace (.char ':' :: .char ' ' :: (lettersOf (writeValue indent value) ++ rest)) =
      .char ':' :: .char ' ' :: (lettersOf (writeValue indent value) ++ rest) := skipSpace_cons rfl _
  have skipped : skipSpace (.char ' ' :: (lettersOf (writeValue indent value) ++ rest)) =
      lettersOf (writeValue indent value) ++ rest := by
    rw [start]
    exact skipSpace_cons notSpace _
  rw [writeMember, writeKey, writeString_ofString, List.cons_append, lettersOf_cons, List.cons_append,
    readMembers, lettersOf_append, List.append_assoc, readString_writeString]
  simp only [bind, Except.bind, lettersOf_cons, List.cons_append, colon, skipped,
    read.read enough ends]
  rfl

/-- The written members of an object are read back up to its end, after those read already. -/
theorem readMembers_lines {members : List (MemberKey × Value)} (some : members ≠ [])
    (named : ∀ member ∈ members, ∃ key, member.1 = .text (.ofString key))
    (each : ∀ member ∈ members, IsRead depth indent member.2) {seen : List (MemberKey × Value)}
    (distinct : ((seen ++ members).map Prod.fst).Nodup) {close fuel : Nat} {rest : List Letter}
    (enough : 2 * (lines indent (members.map (writeMember indent))).length + 1 ≤ fuel) :
    readMembers fuel depth (lettersOf (lines indent (members.map (writeMember indent))) ++
      (lettersOf (newLine close) ++ .char '\x7d' :: rest)) seen = .ok (seen ++ members, rest) := by
  induction members generalizing fuel seen with
  | nil => exact absurd rfl some
  | cons member others ih =>
    obtain ⟨_, value⟩ := member
    obtain ⟨first, later⟩ := List.forall_mem_cons.1 each
    obtain ⟨⟨key, rfl⟩, names⟩ := List.forall_mem_cons.1 named
    replace first : IsRead depth indent value := first
    obtain ⟨fuel, rfl⟩ : ∃ less, fuel = less + 1 := ⟨fuel - 1, by omega⟩
    have added : Value.setMember seen (.text (.ofString key)) value =
        seen ++ [(.text (.ofString key), value)] := by
      refine setMember_of_absent fun member => ?_
      rw [List.map_append, List.nodup_append] at distinct
      exact distinct.2.2 _ member _ List.mem_cons_self rfl
    have length : (writeValue indent value).length ≤
        (writeMember indent (.text (.ofString key), value)).length := by
      simp only [writeMember, List.length_append, List.length_cons]
      omega
    rw [List.map_cons] at enough ⊢
    cases others with
    | nil =>
      rw [List.map_nil, lines_singleton] at enough ⊢
      have stop := (endsValue_token (c := '\x7d') (.inr (.inr rfl)) rest).2
      rw [readMembers_member first (by omega) (endsValue_newLine close _), skipSpace_newLine, stop,
        added]
      rfl
    | cons next others =>
      rw [List.map_cons, lines_cons_cons] at enough ⊢
      rw [← List.map_cons] at enough ⊢
      simp only [List.length_append, List.length_cons] at enough
      simp only [lettersOf_append, lettersOf_cons, List.append_assoc, List.cons_append]
      obtain ⟨comma, stop⟩ := endsValue_token (c := ',') (.inl rfl) (lettersOf (newLine indent) ++
        (lettersOf (lines indent ((next :: others).map (writeMember indent))) ++
          (lettersOf (newLine close) ++ .char '\x7d' :: rest)))
      obtain ⟨more, start⟩ := exists_writeMember_cons indent (names next List.mem_cons_self)
      have skipped := skipSpace_lines indent start rfl
        (others.map (writeMember indent)) (lettersOf (newLine close) ++ .char '\x7d' :: rest)
      rw [← List.map_cons] at skipped
      rw [readMembers_member first (by omega) comma, stop]
      simp only [skipSpace_newLine, skipped, added]
      rw [ih (List.cons_ne_nil _ _) names later (by simpa using distinct) (by omega),
        List.append_assoc, List.singleton_append]

end Objects

/-! ### All values -/

/-- A written number starts neither with white space nor with a bracket. -/
theorem exists_cons_showInteger (number : Int) : ∃ c more,
    (Text.showInteger number).toList = c :: more ∧ (isDigit c = true ∨ c = '-') := by
  cases number with
  | ofNat size =>
    rw [Text.showInteger, Nat.toString_eq_ofList_toDigits, String.toList_ofList]
    cases spelled : Nat.toDigits 10 size with
    | nil => exact absurd spelled Nat.toDigits_ne_nil
    | cons c more =>
      exact ⟨c, more, rfl, .inl (isDigit_of_mem_toDigits (spelled ▸ List.mem_cons_self))⟩
  | negSucc size =>
    refine ⟨'-', (toString (size + 1)).toList, ?_, .inr rfl⟩
    rw [Text.showInteger, String.toList_append]
    rfl

/-- A written scalar that starts with no bracket is read back if it is as a scalar. -/
theorem isRead_scalar {depth indent : Nat} {value : Value} {c : Char} {more : List Char}
    (start : writeValue indent value = c :: more) (notSpace : isSpace c = false)
    (notEnd : c ≠ ']') (noList : c ≠ '[') (noObject : c ≠ '\x7b')
    (read : ∀ rest, EndsValue rest →
      readScalar (lettersOf (c :: more) ++ rest) = .ok (value, rest)) :
    IsRead depth indent value where
  starts := ⟨c, more, start, notSpace, notEnd⟩
  read := by
    intro fuel rest enough ends
    rw [start] at enough ⊢
    rw [List.length_cons] at enough
    obtain ⟨fuel, rfl⟩ : ∃ less, fuel = less + 1 := ⟨fuel - 1, by omega⟩
    have scalar := read rest ends
    rw [lettersOf_cons, List.cons_append] at scalar ⊢
    rw [readValue_scalar fuel depth noList noObject, scalar]

/-- A list of values that are read back is read back. -/
theorem isRead_list {depth indent : Nat} {items : List Value}
    (each : ∀ item ∈ items, IsRead depth (indent + 1) item) :
    IsRead (depth + 1) indent (.list items) := by
  cases items with
  | nil =>
    refine ⟨⟨_, _, rfl, rfl, by decide⟩, fun {fuel rest} enough _ => ?_⟩
    change 2 * 2 ≤ fuel at enough
    obtain ⟨fuel, rfl⟩ : ∃ less, fuel = less + 1 := ⟨fuel - 1, by omega⟩
    rfl
  | cons item others =>
    have written : writeValue indent (.list (item :: others)) =
        '[' :: (newLine (indent + 1) ++
          (lines (indent + 1) ((item :: others).map (writeValue (indent + 1))) ++
            (newLine indent ++ [']']))) := by
      rw [writeValue, writeItems_eq_map, bracket, if_neg (by simp), lines]
      simp only [List.cons_append, List.append_assoc]
    refine ⟨⟨_, _, written, rfl, by decide⟩, fun {fuel rest} enough _ => ?_⟩
    rw [written] at enough ⊢
    simp only [List.length_cons, List.length_append] at enough
    obtain ⟨fuel, rfl⟩ : ∃ less, fuel = less + 1 := ⟨fuel - 1, by omega⟩
    have short : 2 * (lines (indent + 1)
        ((item :: others).map (writeValue (indent + 1)))).length + 1 ≤ fuel := by omega
    have values : readItems fuel depth
        (lettersOf (lines (indent + 1) ((item :: others).map (writeValue (indent + 1)))) ++
          (lettersOf (newLine indent) ++ .char ']' :: rest)) = .ok (item :: others, rest) :=
      readItems_lines (List.cons_ne_nil _ _) each short
    obtain ⟨c, more, start, notSpace, notEnd⟩ := (each item List.mem_cons_self).starts
    obtain ⟨tail, whole⟩ := exists_lettersOf_lines (indent + 1) start
      (others.map (writeValue (indent + 1))) (lettersOf (newLine indent) ++ .char ']' :: rest)
    rw [← List.map_cons] at whole
    simp only [lettersOf_cons, lettersOf_append, lettersOf_nil, List.cons_append, List.append_assoc,
      List.nil_append]
    rw [readValue, skipSpace_newLine, whole, skipSpace_cons notSpace]
    rw [whole] at values
    split
    · rename_i same
      cases same
      exact absurd rfl notEnd
    · rw [values]
      rfl

/-- An object of values that are read back is read back, if its keys are different texts. -/
theorem isRead_object {depth indent : Nat} {members : List (MemberKey × Value)}
    (named : ∀ member ∈ members, ∃ key, member.1 = .text (.ofString key))
    (distinct : (members.map Prod.fst).Nodup)
    (each : ∀ member ∈ members, IsRead depth (indent + 1) member.2) :
    IsRead (depth + 1) indent (.object members) := by
  cases members with
  | nil =>
    refine ⟨⟨_, _, rfl, rfl, by decide⟩, fun {fuel rest} enough _ => ?_⟩
    change 2 * 2 ≤ fuel at enough
    obtain ⟨fuel, rfl⟩ : ∃ less, fuel = less + 1 := ⟨fuel - 1, by omega⟩
    rfl
  | cons member others =>
    have written : writeValue indent (.object (member :: others)) =
        '\x7b' :: (newLine (indent + 1) ++
          (lines (indent + 1) ((member :: others).map (writeMember (indent + 1))) ++
            (newLine indent ++ ['\x7d']))) := by
      rw [writeValue, writeMembers_eq_map, bracket, if_neg (by simp), lines]
      simp only [List.cons_append, List.append_assoc]
    refine ⟨⟨_, _, written, rfl, by decide⟩, fun {fuel rest} enough _ => ?_⟩
    rw [written] at enough ⊢
    simp only [List.length_cons, List.length_append] at enough
    obtain ⟨fuel, rfl⟩ : ∃ less, fuel = less + 1 := ⟨fuel - 1, by omega⟩
    have short : 2 * (lines (indent + 1)
        ((member :: others).map (writeMember (indent + 1)))).length + 1 ≤ fuel := by omega
    have values : readMembers fuel depth
        (lettersOf (lines (indent + 1) ((member :: others).map (writeMember (indent + 1)))) ++
          (lettersOf (newLine indent) ++ .char '\x7d' :: rest)) [] =
            .ok ([] ++ member :: others, rest) :=
      readMembers_lines (List.cons_ne_nil _ _) named each distinct short
    obtain ⟨more, start⟩ := exists_writeMember_cons (indent + 1)
      (named member List.mem_cons_self)
    obtain ⟨tail, whole⟩ := exists_lettersOf_lines (indent + 1) start
      (others.map (writeMember (indent + 1))) (lettersOf (newLine indent) ++ .char '\x7d' :: rest)
    rw [← List.map_cons] at whole
    simp only [lettersOf_cons, lettersOf_append, lettersOf_nil, List.cons_append, List.append_assoc,
      List.nil_append]
    rw [readValue, skipSpace_newLine, whole, skipSpace_cons rfl]
    rw [whole] at values
    split
    · rename_i same
      cases same
    · rw [values]
      rfl

/-- A value that is read back is so wherever it stands. -/
theorem ReadsBack.isRead {depth : Nat} {value : Value} (back : ReadsBack depth value)
    (indent : Nat) : IsRead depth indent value := by
  induction back generalizing indent with
  | null =>
    exact isRead_scalar rfl (by decide) (by decide) (by decide) (by decide) fun rest _ => rfl
  | bool value =>
    cases value
    · exact isRead_scalar rfl (by decide) (by decide) (by decide) (by decide) fun rest _ => rfl
    · exact isRead_scalar rfl (by decide) (by decide) (by decide) (by decide) fun rest _ => rfl
  | @integer depth number short =>
    obtain ⟨c, more, spelled, first⟩ := exists_cons_showInteger number
    have other (name : Char) (letter : isDigit name = false) (noSign : name ≠ '-') : c ≠ name := by
      rintro rfl
      rcases first with digit | sign
      · rw [digit] at letter
        cases letter
      · exact noSign sign
    have notSpace : isSpace c = false := by
      simp [isSpace, other ' ' rfl (by decide), other '\t' rfl (by decide),
        other '\n' rfl (by decide), other '\r' rfl (by decide)]
    refine isRead_scalar spelled notSpace (other _ rfl (by decide)) (other _ rfl (by decide))
      (other _ rfl (by decide)) fun rest ends => ?_
    rw [← spelled]
    exact readScalar_integer short ends
  | text text =>
    refine isRead_scalar (writeString_ofString text) rfl (by decide) (by decide) (by decide)
      fun rest _ => ?_
    rw [lettersOf_cons, List.cons_append]
    change (readString _).map _ = _
    rw [readString_writeString]
    rfl
  | list each ih => exact isRead_list fun item member => ih item member (indent + 1)
  | object named distinct each ih =>
    exact isRead_object named distinct fun member inside => ih member inside (indent + 1)

/-- A document is read back as it was written, with a line's end after it. -/
theorem read_write {value : Value} (back : ReadsBack deepest value) :
    read (.ofString (write value ++ "\n")) = .ok value := by
  have whole := back.isRead 0
  obtain ⟨c, more, start, notSpace, -⟩ := whole.starts
  have letters : (LooseText.ofString (write value ++ "\n")).letters =
      lettersOf (writeValue 0 value) ++ lettersOf (newLine 0) := by
    rw [LooseText.ofString, write, String.toList_append, String.toList_ofList]
    exact lettersOf_append _ _
  have skipped : skipSpace (lettersOf (writeValue 0 value) ++ lettersOf (newLine 0)) =
      lettersOf (writeValue 0 value) ++ lettersOf (newLine 0) := by
    rw [start]
    exact skipSpace_cons notSpace _
  have short : 2 * (writeValue 0 value).length ≤
      2 * (lettersOf (writeValue 0 value) ++ lettersOf (newLine 0)).length + 2 := by
    simp only [lettersOf, List.length_append, List.length_map]
    omega
  have ends : EndsValue (lettersOf (newLine 0)) := endsValue_newLine 0 []
  rw [read, letters]
  simp only [skipped, whole.read short ends]
  rfl

end LintBench.Json
