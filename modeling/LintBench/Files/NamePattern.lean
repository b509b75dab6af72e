import LintBench.Text.Ends
import LintBench.Text.Split

/-!
# Patterns for names

A pattern for one name on a path. A star stands for any characters, a question
mark for one, and a bracket for one of a class: single characters and ranges,
all but these after an exclamation mark. A bracket that is not closed stands for
itself.
-/

namespace LintBench

/-- What one part of a pattern stands for. -/
inductive NamePart where
  /-- One character. -/
  | char (c : Char)
  /-- Any one character. -/
  | anyChar
  /-- A character in one of the ranges, or in none of them. -/
  | oneOf (excluded : Bool) (ranges : List (Char × Char))
  /-- Any characters. -/
  | anyText
deriving DecidableEq, Repr

/-- A pattern for a name. -/
abbrev NamePattern := List NamePart

namespace NamePattern

/-- Whether a pattern's text has anything in it that does not stand for itself. -/
def isWild (text : List Char) : Bool := text.any fun c => c = '*' || c = '?' || c = '['

/-- What a class lists. -/
inductive ClassItem where
  /-- One character. -/
  | single (c : Char)
  /-- All characters from one to another. -/
  | range (low high : Char)
deriving DecidableEq, Repr

/-- What lists the characters of a class. A hyphen between two characters makes them the ends of a
range. -/
def readItems : List Char → List ClassItem
  | low :: '-' :: high :: rest => .range low high :: readItems rest
  | c :: rest => .single c :: readItems rest
  | [] => []

/-- Whether a range has its ends the right way round. -/
def ClassItem.isInOrder : ClassItem → Bool
  | .single _ => true
  | .range low high => low ≤ high

/-- The ends of an item, taken as a range. -/
def ClassItem.ends : ClassItem → Char × Char
  | .single c => (c, c)
  | .range low high => (low, high)

/-- A class that stands between brackets. -/
structure ClassText where
  /-- Whether the class is of all characters but the listed ones. -/
  excluded : Bool
  /-- What lists its characters. -/
  body : List Char

/-- Take a character off the front of a text if it is one of some. -/
def takeOneOf (some : List Char) : List Char → List Char × List Char
  | c :: rest => if some.contains c then ([c], rest) else ([], c :: rest)
  | [] => ([], [])

/-- The class that a text starts with, its opening bracket taken, and the text after its closing
bracket. One of the `excluders` may come first, and a bracket after that is in the class. -/
def takeClass (excluders text : List Char) : Option (ClassText × List Char) :=
  let (mark, afterMark) := takeOneOf excluders text
  let (bracket, inside) := takeOneOf [']'] afterMark
  match inside.dropWhile (· ≠ ']') with
  | [] => none
  | _ :: after =>
    some (⟨!mark.isEmpty, bracket ++ inside.takeWhile (· ≠ ']')⟩, after)

/-- What is left after an item is no longer than the text. -/
theorem takeOneOf_shorter (chars text : List Char) :
    (takeOneOf chars text).2.length ≤ text.length := by
  cases text with
  | nil => simp [takeOneOf]
  | cons c rest =>
    simp only [takeOneOf]
    split <;> simp

/-- What is left after a class is no longer than the text. -/
theorem takeClass_shorter {excluders text after : List Char} {read : ClassText}
    (taken : takeClass excluders text = some (read, after)) : after.length ≤ text.length := by
  simp only [takeClass] at taken
  split at taken
  · simp at taken
  · rename_i closing _ found
    have bound := (List.dropWhile_suffix (fun c => decide (c ≠ ']'))
      (l := (takeOneOf [']'] (takeOneOf excluders text).2).2)).length_le
    have first := takeOneOf_shorter excluders text
    have second := takeOneOf_shorter [']'] (takeOneOf excluders text).2
    rw [found] at bound
    simp at taken bound
    rw [← taken.2]
    omega

/-- The part that items stand for. -/
def partOf (excluded : Bool) (items : List ClassItem) : NamePart :=
  .oneOf excluded (items.map ClassItem.ends)

/-- The part that a class of a name pattern is. Ranges whose ends are the wrong way round are left
out first. An exclamation mark that comes to the front by that excludes what follows it; if it was
the low end of a range, the hyphen and the high end follow it. -/
def ClassText.toPart (read : ClassText) : NamePart :=
  let items := (readItems read.body).filter ClassItem.isInOrder
  if read.excluded then partOf true items
  else match items with
    | .single '!' :: rest => partOf true rest
    | .range '!' high :: rest => partOf true (.single '-' :: .single high :: rest)
    | items => partOf false items

/-- Read a pattern. -/
def read : List Char → NamePattern
  | [] => []
  | '*' :: rest => .anyText :: read rest
  | '?' :: rest => .anyChar :: read rest
  | '[' :: rest =>
    match _taken : takeClass ['!'] rest with
    | some (found, after) => found.toPart :: read after
    | none => .char '[' :: read rest
  | c :: rest => .char c :: read rest
termination_by text => text.length
decreasing_by
  · simp
  · simp
  · have := takeClass_shorter _taken
    simp; omega
  · simp
  · simp

/-- Whether a part that stands for one character admits a given one. -/
def admits : NamePart → Char → Bool
  | .char c, d => c = d
  | .anyChar, _ => true
  | .oneOf excluded ranges, d => (ranges.any fun (low, high) => low ≤ d && d ≤ high) != excluded
  | .anyText, _ => false

/-- For each end of a name, whether a pattern stands for it. -/
def acceptedEnds : NamePattern → List Char → List Bool
  | [], text => Text.alongEnds (fun _ => true) (fun _ _ _ _ => false) text ([] : List Bool)
  | .anyText :: rest, text =>
    Text.alongEnds id (fun _ here _ later => here || later) text (acceptedEnds rest text)
  | part :: rest, text =>
    Text.alongEnds (fun _ => false) (fun c _ next _ => admits part c && next) text
      (acceptedEnds rest text)

/-- Whether a pattern stands for a whole name. -/
def accepts (pattern : NamePattern) (name : List Char) : Bool :=
  Text.wholeFact (acceptedEnds pattern name)

end NamePattern

end LintBench
