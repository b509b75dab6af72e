import LintBench.Expectation.Grammar

/-!
# Writing expectations

The canonical text of expected issues: each code in square brackets, a colon and
the details parted by commas, and the codes parted by semicolons. The grammar
reads it back.
-/

namespace LintBench

/-- Put a backslash before each quote and each backslash. -/
def escapeMessage : List Char → List Char
  | [] => []
  | c :: rest =>
    if c = '"' ∨ c = '\\' then '\\' :: c :: escapeMessage rest else c :: escapeMessage rest

/-- A message between double quotes. -/
def quoteMessage (message : String) : List Char :=
  '"' :: escapeMessage message.toList ++ ['"']

/-- The text of a column and a message: a part that accepts everything is left out, and a zero
stands for a detail that accepts everything. -/
def renderDetail (column : Nat) (message : String) : List Char :=
  if message = "" then (toString column).toList
  else if column = 0 then quoteMessage message
  else (toString column).toList ++ ' ' :: quoteMessage message

/-- The text of one code with its details. -/
def renderCode (code : String) (details : List (Nat × String)) : List Char :=
  '[' :: code.toList ++ ']' ::
    (if details.isEmpty then []
     else ':' :: ' ' :: List.intercalate [',', ' ']
       (details.map fun (column, message) => renderDetail column message))

/-- The text of expected issues, code by code. -/
def renderIssues (issues : List (String × List (Nat × String))) : List Char :=
  List.intercalate [';', ' '] (issues.map fun (code, details) => renderCode code details)

/-- Undoing the escapes gives the message back. -/
theorem unescape_escapeMessage (message : List Char) :
    unescape (escapeMessage message) = message := by
  induction message with
  | nil => rfl
  | cons c rest ih =>
    by_cases quote : c = '"'
    · simp [escapeMessage, quote, unescape, ih]
    · by_cases slash : c = '\\'
      · simp [escapeMessage, slash, unescape, ih]
      · simp only [escapeMessage, quote, slash, or_self, if_false]
        rw [unescape.eq_def]
        split <;> simp_all

end LintBench
