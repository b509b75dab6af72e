import LintBench.Expectation.Basic
import LintBench.Text.Number
import LintBench.Text.Word

/-!
# The expectation grammar

A comment is read as segments parted by semicolons, where a semicolon inside a
complete quoted text parts nothing and a quote that is never closed parts what
stands on its two sides. A segment counts if it holds an issue code in square
brackets; a colon after the brackets starts a list of details, and the list ends
at the first item that is neither a column nor a quoted message. All else is
skipped.
-/

namespace LintBench

open Text

/-- The one way a comment can fail to be read. -/
inductive GrammarError where
  /-- A column has more digits than a numeral may have. -/
  | columnTooLong
deriving DecidableEq, Repr

/-! ## Issue codes -/

/-- Read a run of digits off the front of a text. -/
def takeDigits (text : List Char) : List Char × List Char :=
  (text.takeWhile isDecimalDigit, text.dropWhile isDecimalDigit)

/-- Read at most one letter off the front of a text. -/
def takeLetter : List Char → List Char × List Char
  | [] => ([], [])
  | c :: rest => if isLatinLetter c then ([c], rest) else ([], c :: rest)

/-- Read an issue code off the front of a text: word characters, a hyphen, at most one letter,
and one to four digits. Gives the code and the rest. -/
def takeIssueCode (text : List Char) : Option (List Char × List Char) :=
  let word := text.takeWhile isWord
  match text.dropWhile isWord with
  | '-' :: afterHyphen =>
    let (letter, afterLetter) := takeLetter afterHyphen
    let (digits, after) := takeDigits afterLetter
    if word.isEmpty || digits.isEmpty || 4 < digits.length then none
    else some (word ++ '-' :: letter ++ digits, after)
  | _ => none

/-- Whether the whole of a token is an issue code. -/
def isIssueCode (token : String) : Bool :=
  match takeIssueCode token.toList with
  | some (_, []) => true
  | _ => false

/-! ## Quoted texts -/

/-- The rest of a quoted text after its opening quote: the text up to the closing quote, still
escaped, and what follows. A backslash takes the next character with it unless that one ends the
line; a quoted text that is never closed is no quoted text. -/
def closeQuote : List Char → Option (List Char × List Char)
  | [] => none
  | '"' :: rest => some ([], rest)
  | '\\' :: '\n' :: _ => none
  | '\\' :: c :: rest => (closeQuote rest).map fun (inner, after) => ('\\' :: c :: inner, after)
  | ['\\'] => none
  | c :: rest => (closeQuote rest).map fun (inner, after) => (c :: inner, after)

/-- Read a quoted text off the front of a text. -/
def takeQuoted : List Char → Option (List Char × List Char)
  | '"' :: rest => closeQuote rest
  | _ => none

/-- Drop the backslash before an escaped quote or backslash; other backslashes stay. -/
def unescape : List Char → List Char
  | '\\' :: '"' :: rest => '"' :: unescape rest
  | '\\' :: '\\' :: rest => '\\' :: unescape rest
  | c :: rest => c :: unescape rest
  | [] => []

/-- What follows a quoted text is shorter than the text it was read from. -/
theorem closeQuote_length {text inner after : List Char}
    (h : closeQuote text = some (inner, after)) : after.length < text.length := by
  induction text using closeQuote.induct generalizing inner after with
  | case1 => simp [closeQuote] at h
  | case2 rest => simp [closeQuote] at h; simp [h.2]
  | case3 => simp [closeQuote] at h
  | case4 c rest notNewline ih =>
    rw [closeQuote] at h
    · obtain ⟨⟨i, a⟩, found, same⟩ := Option.map_eq_some_iff.1 h
      have := ih found
      simp only [Prod.mk.injEq] at same
      simp only [← same.2, List.length_cons]
      omega
    · exact notNewline
  | case5 => simp [closeQuote] at h
  | case6 c rest notQuote notNewline notEscape notLone ih =>
    rw [closeQuote] at h
    · obtain ⟨⟨i, a⟩, found, same⟩ := Option.map_eq_some_iff.1 h
      have := ih found
      simp only [Prod.mk.injEq] at same
      simp only [← same.2, List.length_cons]
      omega
    all_goals assumption

/-! ## Segments -/

/-- The segments of a comment, read from left to right. `current` holds the segment being read,
its last character first. -/
def splitSegments (text current : List Char) : List (List Char) :=
  let close (rest : List (List Char)) := if current.isEmpty then rest else current.reverse :: rest
  match text with
  | [] => close []
  | ';' :: rest => close (splitSegments rest [])
  | '"' :: rest =>
    match _found : closeQuote rest with
    | some (inner, after) => splitSegments after ('"' :: inner.reverse ++ '"' :: current)
    | none => close (splitSegments rest [])
  | c :: rest => splitSegments rest (c :: current)
termination_by text.length
decreasing_by
  · simp
  · have := closeQuote_length _found
    simp only [List.length_cons]
    omega
  · simp
  · simp

/-- The segments of a comment. -/
def segments (comment : List Char) : List (List Char) := splitSegments comment []

/-! ## Details -/

/-- One item of a detail list as it is written: the digits of its column and its message, still
escaped. -/
structure DetailItem where
  /-- The digits of the column, if one is given. -/
  column : List Char := []
  /-- The escaped message, if one is given. -/
  message : Option (List Char) := none
deriving DecidableEq, Repr

/-- Read one item of a detail list with the blanks around it: a column, a quoted message, or both
in either order. -/
def takeItem (text : List Char) : Option (DetailItem × List Char) :=
  let start := skipBlanks text
  let (digits, afterDigits) := takeDigits start
  if !digits.isEmpty then
    match takeQuoted (skipBlanks afterDigits) with
    | some (message, after) =>
      some ({ column := digits, message := some message }, skipBlanks after)
    | none => some ({ column := digits }, skipBlanks afterDigits)
  else
    (takeQuoted start).map fun (message, after) =>
      let (digits, afterDigits) := takeDigits (skipBlanks after)
      if digits.isEmpty then ({ message := some message }, skipBlanks after)
      else ({ column := digits, message := some message }, skipBlanks afterDigits)

/-- The expectation that an item states; a missing part accepts everything. -/
def DetailItem.detail (item : DetailItem) : Except GrammarError Detail :=
  match readDigits item.column with
  | some column => .ok { column, message := String.ofList (unescape (item.message.getD [])) }
  | none => .error .columnTooLong

/-- What follows a quoted text read off the front is shorter. -/
theorem takeQuoted_length {text message after : List Char}
    (h : takeQuoted text = some (message, after)) : after.length < text.length := by
  unfold takeQuoted at h
  split at h
  · have := closeQuote_length h
    simp only [List.length_cons]
    omega
  · simp at h

/-- A run of digits and its rest make up the text. -/
theorem takeDigits_append (text : List Char) :
    (takeDigits text).1 ++ (takeDigits text).2 = text := by
  simp [takeDigits, List.takeWhile_append_dropWhile]

/-- Every item takes at least one character. -/
theorem takeItem_length {text rest : List Char} {item : DetailItem}
    (h : takeItem text = some (item, rest)) : rest.length < text.length := by
  have start := length_skipBlanks_le text
  have pieces := congrArg List.length (takeDigits_append (skipBlanks text))
  simp only [List.length_append] at pieces
  simp only [takeItem] at h
  split at h
  · rename_i digits
    have some_digit : 0 < (takeDigits (skipBlanks text)).1.length := by
      rw [List.length_pos_iff]
      simpa using digits
    have blanks := length_skipBlanks_le (takeDigits (skipBlanks text)).2
    split at h
    · rename_i message after quoted
      have := takeQuoted_length quoted
      have := length_skipBlanks_le after
      simp only [Option.some.injEq, Prod.mk.injEq] at h
      rw [← h.2]
      omega
    · simp only [Option.some.injEq, Prod.mk.injEq] at h
      rw [← h.2]
      omega
  · obtain ⟨⟨message, after⟩, quoted, same⟩ := Option.map_eq_some_iff.1 h
    have := takeQuoted_length quoted
    have := length_skipBlanks_le after
    have later := congrArg List.length (takeDigits_append (skipBlanks after))
    have := length_skipBlanks_le (takeDigits (skipBlanks after)).2
    simp only [List.length_append] at later
    dsimp only at same
    split at same <;> simp only [Prod.mk.injEq] at same <;> rw [← same.2] <;> omega

/-- The items of a detail list, up to the first text that is no item or is not followed by a
comma. -/
def detailItems (text : List Char) : List DetailItem :=
  match _found : takeItem text with
  | none => []
  | some (item, ',' :: rest) => item :: detailItems rest
  | some (item, _) => [item]
termination_by text.length
decreasing_by
  have := takeItem_length _found
  simp only [List.length_cons] at this
  omega

/-- Read a detail list. -/
def readDetails (text : List Char) : Except GrammarError (List Detail) :=
  (detailItems text).mapM DetailItem.detail

/-! ## Comments -/

/-- The first issue code in square brackets, and the text after the brackets. -/
def findCode : List Char → Option (List Char × List Char)
  | [] => none
  | '[' :: rest =>
    match takeIssueCode rest with
    | some (code, ']' :: after) => some (code, after)
    | _ => findCode rest
  | _ :: rest => findCode rest

/-- The detail list after the brackets of a code: what follows a colon, if one comes next. -/
def detailText (after : List Char) : List Char :=
  match skipBlanks after with
  | ':' :: text => text
  | _ => []

/-- Add what one segment expects; a segment without a code adds nothing. -/
def Expectation.addSegment (expectation : Expectation) (segment : List Char) :
    Except GrammarError Expectation :=
  match findCode segment with
  | some (code, after) =>
    (readDetails (detailText after)).map (expectation.add (String.ofList code))
  | none => .ok expectation

/-- Read what follows a comment marker; a comment without a code expects nothing. -/
def Expectation.read (comment : List Char) : Except GrammarError Expectation :=
  (segments comment).foldlM Expectation.addSegment .empty

/-- Read a comment as an expectation, if it holds an issue code. -/
def Expectation.read? (comment : String) : Except GrammarError (Option Expectation) :=
  (Expectation.read comment.toList).map fun expectation =>
    if expectation.details.isEmpty then none else some expectation

end LintBench
