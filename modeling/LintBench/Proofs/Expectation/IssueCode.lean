import LintBench.Expectation.Grammar
import Mathlib.Data.List.TakeWhile

/-!
# The shape of issue codes

An issue code is a run of word characters, a hyphen, at most one letter and one to
four digits. The reader takes exactly such a text off the front, as long as no
further digit follows.
-/

namespace LintBench

open Text

/-- No character is both a decimal digit and an English letter. -/
theorem not_isLatinLetter_of_isDecimalDigit {c : Char} (digit : isDecimalDigit c = true) :
    isLatinLetter c = false := by
  have apart : ∀ start ∈ zeroDigits, start + 9 < 65 ∨ 122 < start := by decide
  obtain ⟨start, listed, bounds⟩ := exists_zero_of_isDecimalDigit digit
  have := apart start listed
  simp only [isLatinLetter, Bool.or_eq_false_iff, Bool.and_eq_false_iff, decide_eq_false_iff_not]
  omega

/-- The parts of an issue code: word characters, at most one letter, and one to four digits. -/
structure CodeParts (word letter digits : List Char) : Prop where
  /-- There is a word. -/
  word_ne_nil : word ≠ []
  /-- The word has word characters only. -/
  word : ∀ c ∈ word, isWord c = true
  /-- There is at most one letter. -/
  letter_length : letter.length ≤ 1
  /-- The letter is an English one. -/
  letter : ∀ c ∈ letter, isLatinLetter c = true
  /-- There is a digit. -/
  digits_ne_nil : digits ≠ []
  /-- There are at most four digits. -/
  digits_length : digits.length ≤ 4
  /-- They are decimal digits. -/
  digits : ∀ c ∈ digits, isDecimalDigit c = true

/-- Whether a text is made of the parts of an issue code. -/
def IsCode (code : List Char) : Prop :=
  ∃ word letter digits, CodeParts word letter digits ∧ code = word ++ '-' :: letter ++ digits

/-- A run of digits is taken whole if none follows it. -/
theorem takeDigits_of_digits {digits rest : List Char}
    (all : ∀ c ∈ digits, isDecimalDigit c = true)
    (ends : ∀ c ∈ rest.head?, isDecimalDigit c = false) :
    takeDigits (digits ++ rest) = (digits, rest) := by
  have none : rest.takeWhile isDecimalDigit = [] := by
    cases rest with
    | nil => rfl
    | cons c rest => simp [ends c rfl]
  have all_left : rest.dropWhile isDecimalDigit = rest := by
    cases rest with
    | nil => rfl
    | cons c rest => simp [ends c rfl]
  rw [takeDigits, List.takeWhile_append_of_pos all, List.dropWhile_append_of_pos all, none,
    all_left, List.append_nil]

/-- At most one letter is taken before a digit. -/
theorem takeLetter_of_letter {letter digits rest : List Char} (single : letter.length ≤ 1)
    (latin : ∀ c ∈ letter, isLatinLetter c = true) (some : digits ≠ [])
    (all : ∀ c ∈ digits, isDecimalDigit c = true) :
    takeLetter (letter ++ (digits ++ rest)) = (letter, digits ++ rest) := by
  match letter with
  | [] =>
    obtain ⟨digit, others, rfl⟩ := List.exists_cons_of_ne_nil some
    simp [takeLetter, not_isLatinLetter_of_isDecimalDigit (all digit List.mem_cons_self)]
  | [c] => simp [takeLetter, latin c List.mem_cons_self]

/-- A letter and its rest make up the text, and it is at most one English letter. -/
theorem takeLetter_parts (text : List Char) :
    (takeLetter text).1 ++ (takeLetter text).2 = text ∧ (takeLetter text).1.length ≤ 1 ∧
      ∀ c ∈ (takeLetter text).1, isLatinLetter c = true := by
  cases text with
  | nil => simp [takeLetter]
  | cons c rest =>
    by_cases latin : isLatinLetter c = true
    · simp [takeLetter, latin]
    · simp [takeLetter, latin]

/-- An issue code is taken off the front of a text if it stands there and no digit follows it. -/
theorem takeIssueCode_of_isCode {code rest : List Char} (isCode : IsCode code)
    (ends : ∀ c ∈ rest.head?, isDecimalDigit c = false) :
    takeIssueCode (code ++ rest) = some (code, rest) := by
  obtain ⟨word, letter, digits, parts, rfl⟩ := isCode
  have notWord : isWord '-' = false := by decide
  have text : (word ++ '-' :: letter ++ digits) ++ rest =
      word ++ '-' :: (letter ++ (digits ++ rest)) := by simp
  have front : (word ++ '-' :: (letter ++ (digits ++ rest))).takeWhile isWord = word := by
    simp [List.takeWhile_append_of_pos parts.word, notWord]
  have back : (word ++ '-' :: (letter ++ (digits ++ rest))).dropWhile isWord =
      '-' :: (letter ++ (digits ++ rest)) := by
    simp [List.dropWhile_append_of_pos parts.word, notWord]
  have counted : ¬ 4 < digits.length := Nat.not_lt.2 parts.digits_length
  rw [text, takeIssueCode]
  simp only [front, back]
  rw [takeLetter_of_letter parts.letter_length parts.letter parts.digits_ne_nil parts.digits]
  simp only
  rw [takeDigits_of_digits parts.digits ends]
  simp [parts.word_ne_nil, parts.digits_ne_nil, counted]

/-- What is taken off the front of a text is an issue code that no digit follows. -/
theorem isCode_of_takeIssueCode {text code rest : List Char}
    (taken : takeIssueCode text = some (code, rest)) :
    IsCode code ∧ text = code ++ rest ∧ ∀ c ∈ rest.head?, isDecimalDigit c = false := by
  unfold takeIssueCode at taken
  simp only at taken
  split at taken
  · rename_i afterHyphen hyphen
    obtain ⟨letterText, single, latin⟩ := takeLetter_parts afterHyphen
    split at taken
    · cases taken
    · rename_i digitsText
      simp only [Bool.or_eq_true, List.isEmpty_iff, decide_eq_true_eq, not_or] at digitsText
      obtain ⟨⟨someWord, someDigit⟩, fewDigits⟩ := digitsText
      cases taken
      have whole := List.takeWhile_append_dropWhile (p := isWord) (l := text)
      rw [hyphen, ← letterText, ← takeDigits_append (takeLetter afterHyphen).2] at whole
      refine ⟨⟨_, _, _, ⟨someWord, fun c member => List.mem_takeWhile_imp member, single, latin,
        someDigit, Nat.not_lt.1 fewDigits, fun c member => List.mem_takeWhile_imp member⟩, rfl⟩,
        ?_, fun c first => ?_⟩
      · simpa using whole.symm
      · have := List.head?_dropWhile_not isDecimalDigit (takeLetter afterHyphen).2
        simp only [takeDigits, Option.mem_def] at first
        rw [first] at this
        simpa using this
  · cases taken

/-- The code that is found in a segment is an issue code between brackets. -/
theorem parts_of_findCode {segment code after : List Char}
    (found : findCode segment = some (code, after)) :
    IsCode code ∧ ∃ lead, segment = lead ++ '[' :: code ++ ']' :: after := by
  induction segment using findCode.induct with
  | case1 => cases found
  | case2 rest code' after' taken =>
    rw [findCode, taken] at found
    cases found
    obtain ⟨isCode, rfl, -⟩ := isCode_of_takeIssueCode taken
    exact ⟨isCode, [], rfl⟩
  | case3 rest other ih =>
    have same : findCode ('[' :: rest) = findCode rest := by
      rw [findCode]
      split
      · rename_i taken
        exact absurd taken (other _ _)
      · rfl
    obtain ⟨isCode, lead, text⟩ := ih (same ▸ found)
    exact ⟨isCode, '[' :: lead, by rw [text]; rfl⟩
  | case4 c rest notBracket ih =>
    rw [findCode] at found
    · obtain ⟨isCode, lead, text⟩ := ih found
      exact ⟨isCode, c :: lead, by rw [text]; rfl⟩
    · exact notBracket

/-- The issue codes are the texts of their shape. -/
theorem isIssueCode_iff_isCode (token : String) : isIssueCode token = true ↔ IsCode token.toList := by
  unfold isIssueCode
  constructor
  · intro whole
    split at whole
    · rename_i code taken
      obtain ⟨isCode, text, -⟩ := isCode_of_takeIssueCode taken
      rwa [text, List.append_nil]
    · cases whole
  · intro isCode
    have nothing : ∀ c ∈ ([] : List Char).head?, isDecimalDigit c = false := by simp
    have taken := takeIssueCode_of_isCode isCode nothing
    rw [List.append_nil] at taken
    simp [taken]

/-- A character that is neither of the parts nor the hyphen stands in no issue code. -/
theorem IsCode.absent {code : List Char} (isCode : IsCode code) {c : Char}
    (notWord : isWord c = false) (notHyphen : c ≠ '-') (notLetter : isLatinLetter c = false)
    (notDigit : isDecimalDigit c = false) : c ∉ code := by
  obtain ⟨word, letter, digits, parts, rfl⟩ := isCode
  simp only [List.mem_append, List.mem_cons, not_or]
  refine ⟨⟨fun inWord => ?_, notHyphen, fun inLetter => ?_⟩, fun inDigits => ?_⟩
  · exact Bool.false_ne_true (notWord.symm.trans (parts.word c inWord))
  · exact Bool.false_ne_true (notLetter.symm.trans (parts.letter c inLetter))
  · exact Bool.false_ne_true (notDigit.symm.trans (parts.digits c inDigits))

end LintBench
