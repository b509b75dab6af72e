import LintBench.Expectation.Grammar
import LintBench.Files.Path

/-!
# Fixture files

A fixture file is a source file whose comments say which issues are expected on
which line. Its check mode limits the codes that take part in the verdict.
-/

namespace LintBench

/-- The expectations of a file by line number, in ascending order. -/
abbrev LineIndex := List (Nat × Expectation)

namespace LineIndex

/-- The expectation of a line. -/
def get? : LineIndex → Nat → Option Expectation
  | [], _ => none
  | (line, expectation) :: rest, asked => if line = asked then some expectation else get? rest asked

/-- Give a line an expectation, in place of the one it has. -/
def set : LineIndex → Nat → Expectation → LineIndex
  | [], line, expectation => [(line, expectation)]
  | (first, present) :: rest, line, expectation =>
    if first < line then (first, present) :: set rest line expectation
    else if first = line then (line, expectation) :: rest
    else (line, expectation) :: (first, present) :: rest

/-- Take the expectation of a line away. -/
def erase (index : LineIndex) (line : Nat) : LineIndex := index.filter fun entry => entry.1 ≠ line

/-- A line that was set shows what it was given; the others are as they were. -/
theorem get?_set (index : LineIndex) (line asked : Nat) (expectation : Expectation) :
    get? (set index line expectation) asked =
      if line = asked then some expectation else get? index asked := by
  induction index with
  | nil => simp [set, get?]
  | cons head rest ih =>
    obtain ⟨first, present⟩ := head
    grind [set, get?]

/-- An erased line shows nothing; the others are as they were. -/
theorem get?_erase (index : LineIndex) (line asked : Nat) :
    get? (erase index line) asked = if line = asked then none else get? index asked := by
  induction index with
  | nil => simp [erase, get?]
  | cons head rest ih =>
    obtain ⟨first, present⟩ := head
    simp only [erase] at ih ⊢
    grind [get?]

end LineIndex

/-- Which issue codes of a file take part in the verdict. -/
inductive CheckMode where
  /-- Every code. -/
  | all
  /-- The listed codes only; an empty list limits nothing. -/
  | only (codes : List String)
  /-- Every code but the listed ones. -/
  | ignoring (codes : List String)
deriving DecidableEq, Repr, Inhabited

namespace CheckMode

/-- The codes that a mode lists, if it lists any. -/
def codes? : CheckMode → Option (List String)
  | .all => none
  | .only codes | .ignoring codes => if codes.isEmpty then none else some codes

/-- Whether issues with the code take part in the verdict. -/
def admits (mode : CheckMode) (code : LooseText) : Bool :=
  match mode with
  | .all => true
  | .only codes => codes.isEmpty || codes.any (LooseText.ofString · = code)
  | .ignoring codes => !codes.any (LooseText.ofString · = code)

/-- The words that open a directive, each with the mode it asks for. -/
def directives : List (String × (List String → CheckMode)) :=
  [("scatr-check:", .only), ("scatr-ignore:", .ignoring)]

/-- The mode that a comment asks for, if it is a directive. Codes are parted by commas, and what
is no issue code is dropped. -/
def ofComment? (comment : List Char) : Option CheckMode :=
  let text := Text.trim comment
  directives.findSome? fun (keyword, mode) =>
    if keyword.toList.isPrefixOf text then
      let tokens := Text.splitOn ',' (text.drop keyword.length)
      some (mode ((tokens.map fun token => String.ofList (Text.trim token)).filter isIssueCode))
    else none

/-- Follow a directive, unless an earlier one has been followed. -/
def follow (mode : CheckMode) (comment : List Char) : CheckMode :=
  match mode with
  | .all => (ofComment? comment).getD .all
  | decided => decided

end CheckMode

/-- A source file with the issues expected in it. -/
structure FixtureFile where
  /-- The file's base name without its ending; a file may be named after an issue code. -/
  name : String
  /-- The expectations by line. -/
  expectations : LineIndex := []
  /-- The codes that take part in the verdict. -/
  mode : CheckMode := .all
deriving DecidableEq, Repr, Inhabited

end LintBench
