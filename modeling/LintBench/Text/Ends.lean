/-!
# Facts about the ends of a text

A row holds one fact for every end of a text: first for the whole text, then for
what is left without its first character, and so on, last for nothing. A search
for a pattern that goes from row to row looks at each end of the text once for
each part of the pattern, however many ways there are to part the text.
-/

namespace LintBench.Text

variable {α β : Type}

/-- The fact for the whole text. -/
def wholeFact [Inhabited α] (row : List α) : α := row.headD default

/-- Make a row from another one. The fact for an end comes from its first character, from what the
other row says of it and of the next end, and from the fact for the next end. -/
def alongEnds [Inhabited α] [Inhabited β] (last : β → α) (step : Char → β → β → α → α) :
    List Char → List β → List α
  | [], row => [last (wholeFact row)]
  | c :: rest, row =>
    let later := alongEnds last step rest row.tail
    step c (wholeFact row) (wholeFact row.tail) (wholeFact later) :: later

end LintBench.Text
