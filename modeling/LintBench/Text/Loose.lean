/-!
# Loose texts

A text that comes out of a document may hold one half of a pair of surrogates
without the other. Such a half is no character, so the text is no string; it is
kept as a letter of its own. A text without any is the same as a string.
-/

namespace LintBench.Text

/-- A letter of a loose text. -/
inductive Letter where
  /-- A character. -/
  | char (c : Char)
  /-- Half of a pair of surrogates, by its place among the code points of halves. -/
  | half (index : Fin 2048)
deriving DecidableEq, Repr, Inhabited

namespace Letter

/-- The code point of the first half. -/
def firstHalf : Nat := 0xD800

/-- The code point of a letter. -/
def point : Letter → Nat
  | .char c => c.toNat
  | .half index => firstHalf + index

/-- The letter of a code point. -/
def ofPoint (point : Nat) : Letter :=
  if inside : firstHalf ≤ point ∧ point < firstHalf + 2048 then
    .half ⟨point - firstHalf, by omega⟩
  else .char (Char.ofNat point)

/-- The character of a letter, if it is one. -/
def char? : Letter → Option Char
  | .char c => some c
  | .half _ => none

/-- Whether a letter is a character that passes a test. -/
def passes (test : Char → Bool) : Letter → Bool
  | .char c => test c
  | .half _ => false

/-- Whether a letter can be in a file's name: a half can if it stands for a byte that is no part of
a character. -/
def isNameable : Letter → Bool
  | .char _ => true
  | .half index => 0x480 ≤ index.val && index.val < 0x500

end Letter

/-- The letters of characters. -/
def lettersOf (text : List Char) : List Letter := text.map .char

/-- The characters among letters, with the replacement character for each half. -/
def shownLetters (letters : List Letter) : List Char :=
  letters.map fun letter => letter.char?.getD '\uFFFD'

end LintBench.Text

namespace LintBench

open Text (Letter)

/-- A text in which halves of surrogate pairs may stand alone. -/
structure LooseText where
  /-- The letters, in order. -/
  letters : List Letter := []
deriving DecidableEq, Repr, Inhabited

namespace LooseText

/-- A string as a loose text. -/
def ofString (text : String) : LooseText := ⟨Text.lettersOf text.toList⟩

instance : Coe String LooseText := ⟨ofString⟩

/-- Whether nothing is in a text. -/
def isEmpty (text : LooseText) : Bool := text.letters.isEmpty

/-- The string that a text is, if no half stands alone in it. -/
def toString? (text : LooseText) : Option String :=
  (text.letters.mapM Letter.char?).map String.ofList

/-- The letters of characters are those characters. -/
theorem mapM_char?_lettersOf (text : List Char) :
    (Text.lettersOf text).mapM Letter.char? = some text := by
  induction text with
  | nil => rfl
  | cons c rest ih => simp_all [Text.lettersOf, Letter.char?]

/-- A string comes back from its loose text. -/
@[simp] theorem toString?_ofString (text : String) : (ofString text).toString? = some text := by
  simp [toString?, ofString, mapM_char?_lettersOf]

/-- Different strings are different loose texts. -/
theorem ofString_injective {one other : String} (same : ofString one = ofString other) :
    one = other := by
  have both := congrArg toString? same
  simpa using both

end LooseText

end LintBench
