/-!
# Cutting texts

Cutting a text at every occurrence of a character, and at the first occurrence
of a marker. Cutting loses nothing but the separators.
-/

namespace LintBench.Text

/-- The pieces between the occurrences of a separator; a text without one is one piece. -/
def splitOn {α : Type} [DecidableEq α] (separator : α) : List α → List (List α)
  | [] => [[]]
  | c :: rest =>
    if c = separator then [] :: splitOn separator rest
    else match splitOn separator rest with
      | [] => [[c]]
      | piece :: pieces => (c :: piece) :: pieces

/-- The pieces of a string. -/
def pieces (separator : Char) (text : String) : List String :=
  (splitOn separator text.toList).map String.ofList

/-- The text after the first occurrence of a marker. -/
def afterFirst (marker : List Char) : List Char → Option (List Char)
  | [] => if marker.isEmpty then some [] else none
  | c :: rest =>
    if marker.isPrefixOf (c :: rest) then some ((c :: rest).drop marker.length)
    else afterFirst marker rest

/-- Whether a text starts with another. -/
def startsWith (text start : String) : Bool := start.toList.isPrefixOf text.toList

/-- A text without its last character, if that is the given one. -/
def dropFinal (last : Char) (text : List Char) : List Char :=
  if text.getLast? = some last then text.dropLast else text

/-- There is at least one piece. -/
theorem splitOn_ne_nil {α : Type} [DecidableEq α] (separator : α) (text : List α) :
    splitOn separator text ≠ [] := by
  cases text with
  | nil => simp [splitOn]
  | cons c rest =>
    simp only [splitOn]
    split
    · simp
    · split <;> simp

/-- Putting the separator back between the pieces gives the text again. -/
theorem intercalate_splitOn {α : Type} [DecidableEq α] (separator : α) (text : List α) :
    List.intercalate [separator] (splitOn separator text) = text := by
  induction text with
  | nil => simp [splitOn]
  | cons c rest ih =>
    simp only [splitOn]
    split
    · rename_i same
      have some_piece := splitOn_ne_nil separator rest
      cases pieces : splitOn separator rest with
      | nil => exact absurd pieces some_piece
      | cons piece others =>
        rw [pieces] at ih
        simp [List.intercalate, List.intersperse, same] at ih ⊢
        exact ih
    · cases pieces : splitOn separator rest with
      | nil => exact absurd pieces (splitOn_ne_nil separator rest)
      | cons piece others =>
        rw [pieces] at ih
        cases others <;> simp_all [List.intercalate, List.intersperse]

end LintBench.Text
