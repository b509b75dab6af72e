import LintBench.Proofs.Expectation.Reading
import LintBench.Proofs.Expectation.Splitting

/-!
# Comments parted by a semicolon

A quoted text closes at the first quote that no backslash escapes, whatever
follows it. So a semicolon after a text that leaves no quote open parts the
comment there: what stands on either side of it is read on its own, and the
expectation of the whole is the merge of the two.
-/

namespace LintBench

/-! ## Texts whose quotes are closed -/

/-- What may stand between two quotes that belong together: a backslash takes the next character
with it, which must not end the line. -/
inductive Quotable : List Char → Prop
  | nil : Quotable []
  | plain {c : Char} {rest : List Char} (notQuote : c ≠ '"') (notEscape : c ≠ '\\')
      (others : Quotable rest) : Quotable (c :: rest)
  | escaped {c : Char} {rest : List Char} (sameLine : c ≠ '\n') (others : Quotable rest) :
      Quotable ('\\' :: c :: rest)

/-- A text in which every quote is closed: it is made up of characters other than the quote, and of
whole quoted texts. -/
inductive QuotesClosed : List Char → Prop
  | nil : QuotesClosed []
  | plain {c : Char} {rest : List Char} (notQuote : c ≠ '"') (others : QuotesClosed rest) :
      QuotesClosed (c :: rest)
  | quoted {inner rest : List Char} (quotable : Quotable inner) (others : QuotesClosed rest) :
      QuotesClosed ('"' :: (inner ++ '"' :: rest))

/-- What may stand between quotes closes at the quote after it. -/
theorem Quotable.closeQuote {inner : List Char} (quotable : Quotable inner) (after : List Char) :
    closeQuote (inner ++ '"' :: after) = some (inner, after) := by
  induction quotable with
  | nil => rfl
  | @plain c rest notQuote notEscape _ ih =>
    rw [List.cons_append, LintBench.closeQuote, ih]
    · rfl
    · exact notQuote
    · exact fun _ same _ => notEscape same
    · exact fun _ _ same _ => notEscape same
    · exact fun same _ => notEscape same
  | @escaped c rest sameLine _ ih =>
    rw [List.cons_append, List.cons_append, LintBench.closeQuote, ih]
    · rfl
    · exact sameLine

/-- A quoted text closes nowhere but after what may stand between quotes. -/
theorem quotable_of_closeQuote {text inner after : List Char}
    (closed : closeQuote text = some (inner, after)) :
    Quotable inner ∧ text = inner ++ '"' :: after := by
  induction text using closeQuote.induct generalizing inner after with
  | case1 => simp [closeQuote] at closed
  | case2 rest =>
    cases closed
    exact ⟨.nil, rfl⟩
  | case3 => simp [closeQuote] at closed
  | case4 c rest sameLine ih =>
    rw [closeQuote] at closed
    · obtain ⟨⟨others, _⟩, found, same⟩ := Option.map_eq_some_iff.1 closed
      cases same
      obtain ⟨quotable, rfl⟩ := ih found
      exact ⟨.escaped sameLine quotable, rfl⟩
    · exact sameLine
  | case5 => simp [closeQuote] at closed
  | case6 c rest notQuote notNewline notEscape notLone ih =>
    have plain : c ≠ '\\' := by
      rintro rfl
      cases rest with
      | nil => exact notLone rfl rfl
      | cons next rest => exact notEscape next rest rfl rfl
    rw [closeQuote] at closed
    · obtain ⟨⟨others, _⟩, found, same⟩ := Option.map_eq_some_iff.1 closed
      cases same
      obtain ⟨quotable, rfl⟩ := ih found
      exact ⟨.plain notQuote plain quotable, rfl⟩
    all_goals assumption

/-- Whether every quote of a text is closed, as it is found out from left to right. -/
def closesQuotes (text : List Char) : Bool :=
  match text with
  | [] => true
  | '"' :: rest =>
    match _found : closeQuote rest with
    | some (_, after) => closesQuotes after
    | none => false
  | _ :: rest => closesQuotes rest
termination_by text.length
decreasing_by
  · have := closeQuote_length _found
    simp only [List.length_cons]
    omega
  · simp

/-- Going from left to right finds out whether every quote is closed. -/
theorem closesQuotes_iff {text : List Char} : closesQuotes text = true ↔ QuotesClosed text := by
  constructor
  · intro closes
    fun_induction closesQuotes text with
    | case1 => exact .nil
    | case2 rest inner after found ih =>
      obtain ⟨quotable, rfl⟩ := quotable_of_closeQuote found
      exact .quoted quotable (ih closes)
    | case3 => cases closes
    | case4 c rest notQuote ih => exact .plain notQuote (ih closes)
  · intro closed
    induction closed with
    | nil => rw [closesQuotes]
    | plain notQuote _ ih =>
      rw [closesQuotes, ih]
      exact notQuote
    | @quoted inner rest quotable _ ih =>
      rw [closesQuotes]
      split
      · rename_i found
        rw [quotable.closeQuote, Option.some.injEq, Prod.mk.injEq] at found
        rw [← found.2, ih]
      · rename_i found
        rw [quotable.closeQuote] at found
        cases found

instance (text : List Char) : Decidable (QuotesClosed text) :=
  decidable_of_iff _ closesQuotes_iff

/-! ## Segments -/

/-- After a character that is no quote, the quotes of a text are still closed. -/
theorem QuotesClosed.tail {c : Char} {rest : List Char} (closed : QuotesClosed (c :: rest))
    (notQuote : c ≠ '"') : QuotesClosed rest := by
  cases closed with
  | plain _ others => exact others
  | quoted => exact absurd rfl notQuote

/-- A text whose quotes are closed and that starts with one starts with a quoted text, after which
the quotes are still closed. -/
theorem QuotesClosed.exists_closeQuote {rest : List Char} (closed : QuotesClosed ('"' :: rest)) :
    ∃ inner after, closeQuote rest = some (inner, after) ∧ QuotesClosed after := by
  cases closed with
  | plain notQuote _ => exact absurd rfl notQuote
  | quoted quotable others => exact ⟨_, _, quotable.closeQuote _, others⟩

/-- A quote that is not closed stays open if no further quote follows. -/
theorem closeQuote_append_of_not_mem {text rest : List Char} (unclosed : closeQuote text = none)
    (noQuote : '"' ∉ rest) : closeQuote (text ++ rest) = none := by
  rw [Option.eq_none_iff_forall_not_mem]
  rintro ⟨inner, after⟩ closed
  obtain ⟨quotable, same⟩ := quotable_of_closeQuote closed
  rcases List.append_eq_append_iff.1 same with ⟨middle, -, late⟩ | ⟨middle, early, late⟩
  · exact noQuote (by simp [late])
  · cases middle with
    | nil =>
      have same : '"' :: after = rest := late
      exact noQuote (same ▸ List.mem_cons_self)
    | cons c middle =>
      obtain ⟨rfl, -⟩ := List.cons.inj late
      rw [early, quotable.closeQuote] at unclosed
      cases unclosed

/-- A semicolon parts the segments if no quote that is open before it is closed after it: if all
quotes before it are closed there, or if no quote follows. -/
theorem splitSegments_parted {text rest : List Char} (apart : QuotesClosed text ∨ '"' ∉ rest)
    (current : List Char) :
    splitSegments (text ++ ';' :: rest) current = splitSegments text current ++ segments rest := by
  induction text, current using splitSegments.induct with
  | case1 current =>
    rw [List.nil_append, splitSegments_semicolon, splitSegments_nil, segments]
    split <;> rfl
  | case2 current text ih =>
    rw [List.cons_append, splitSegments_semicolon, splitSegments_semicolon,
      ih (apart.imp_left fun closed => closed.tail (by decide))]
    split <;> rfl
  | case3 current text inner after found ih =>
    have later : QuotesClosed after ∨ '"' ∉ rest := apart.imp_left fun closed => by
      obtain ⟨_, _, own, others⟩ := closed.exists_closeQuote
      rw [found] at own
      cases own
      exact others
    obtain ⟨quotable, rfl⟩ := quotable_of_closeQuote found
    have whole := quotable.closeQuote (after ++ ';' :: rest)
    rw [List.cons_append, List.append_assoc, List.cons_append, splitSegments_quoted whole,
      splitSegments_quoted found, ih later]
  | case4 current text unclosed ih =>
    have noQuote : '"' ∉ rest := apart.resolve_left fun closed => by
      obtain ⟨_, _, own, -⟩ := closed.exists_closeQuote
      rw [unclosed] at own
      cases own
    have stillOpen : closeQuote (text ++ ';' :: rest) = none :=
      closeQuote_append_of_not_mem unclosed (by simpa using noQuote)
    rw [List.cons_append, splitSegments_unclosed stillOpen, splitSegments_unclosed unclosed,
      ih (.inr noQuote)]
    split <;> rfl
  | case5 current c text notSemicolon notQuote ih =>
    rw [List.cons_append, splitSegments_plain notSemicolon notQuote,
      splitSegments_plain notSemicolon notQuote,
      ih (apart.imp_left fun closed => closed.tail notQuote)]

/-- The segments of two texts parted by a semicolon are those of the first, and then those of the
second. -/
theorem segments_parted {first second : List Char} (apart : QuotesClosed first ∨ '"' ∉ second) :
    segments (first ++ ';' :: second) = segments first ++ segments second :=
  splitSegments_parted apart []

/-! ## Expectations -/

namespace Expectation

/-- Adding what a segment expects to a merge is adding it to what was merged last. -/
theorem addSegment_merge {expectation other : Expectation} (distinct : expectation.Distinct)
    (distinctOther : other.Distinct) (segment : List Char) :
    (expectation.merge other).addSegment segment =
      (other.addSegment segment).map expectation.merge := by
  unfold addSegment
  cases findCode segment with
  | none => rfl
  | some found =>
    obtain ⟨code, after⟩ := found
    simp only
    cases readDetails (detailText after) with
    | error fault => rfl
    | ok details =>
      have alone : Distinct
          { details := [(String.ofList code, details)], raised := [(String.ofList code, false)] } :=
        ⟨by simp [Keyed.keys], by simp [Keyed.keys]⟩
      simp only [Except.map]
      rw [add_eq_merge, add_eq_merge, merge_merge distinct distinctOther alone]

/-- Reading further segments into a merge is reading them into what was merged last. -/
theorem foldlM_addSegment_merge {expectation other : Expectation}
    (distinct : expectation.Distinct) (fresh : other.Fresh) (segments : List (List Char)) :
    segments.foldlM addSegment (expectation.merge other) =
      (segments.foldlM addSegment other).map expectation.merge := by
  induction segments generalizing other with
  | nil => rfl
  | cons segment rest ih =>
    rw [List.foldlM_cons, List.foldlM_cons, addSegment_merge distinct fresh.toDistinct]
    cases added : other.addSegment segment with
    | error fault => rfl
    | ok next => exact ih (fresh.addSegment added)

/-- Two comments parted by a semicolon are read one after the other, and merged. -/
theorem read_parted {first second : List Char} (apart : QuotesClosed first ∨ '"' ∉ second) :
    read (first ++ ';' :: second) = do
      let one ← read first
      let two ← read second
      return one.merge two := by
  unfold read
  rw [segments_parted apart, List.foldlM_append]
  cases isRead : (segments first).foldlM addSegment .empty with
  | error fault => rfl
  | ok one =>
    have distinct : one.Distinct := (fresh_of_read isRead).toDistinct
    have later := foldlM_addSegment_merge distinct fresh_empty (segments second)
    rw [merge_empty] at later
    refine later.trans ?_
    cases (segments second).foldlM addSegment .empty <;> rfl

/-- An expectation that lists no code, as a comment that states nothing is read, is the empty one.
-/
theorem eq_empty_of_read {comment : List Char} {expectation : Expectation}
    (isRead : read comment = .ok expectation) (nothing : expectation.details.isEmpty = true) :
    expectation = empty := by
  have fresh := fresh_of_read isRead
  obtain ⟨unplaced, unfolded⟩ := placeless_of_read isRead
  obtain ⟨details, raised, fromCommentLine, folded⟩ := expectation
  obtain rfl : details = [] := List.isEmpty_iff.1 nothing
  obtain rfl : raised = [] := by simpa [Keyed.keys] using fresh.inStep
  simp only at unplaced unfolded
  subst unplaced unfolded
  rfl

/-- The merge of what two comments state, where a comment that states nothing counts as the empty
expectation, and the empty merge as stating nothing. -/
def joined (one two : Option Expectation) : Option Expectation :=
  let both := (one.getD empty).merge (two.getD empty)
  if both.details.isEmpty then none else some both

/-- A comment is read as the expectation it states, or else as the empty one. -/
theorem read_eq_map_read? (comment : String) :
    read comment.toList = (read? comment).map fun found => found.getD empty := by
  unfold read?
  cases isRead : read comment.toList with
  | error fault => rfl
  | ok expectation =>
    simp only [Except.map]
    split
    · rename_i nothing
      rw [eq_empty_of_read isRead nothing]
      rfl
    · rfl

/-- What two comments join to states what either of them states. -/
theorem states_joined_iff (one : Option Expectation) {two : Option Expectation}
    (distinct : ∀ other ∈ two, other.Distinct) (code : String) (part : Option Detail) :
    (∃ whole ∈ joined one two, whole.States code part) ↔
      (∃ own ∈ one, own.States code part) ∨ ∃ own ∈ two, own.States code part := by
  have silent : ¬ empty.States code part := by simp [States, empty]
  have filled : ∀ side : Option Expectation,
      (∃ own ∈ side, own.States code part) ↔ (side.getD empty).States code part := by
    intro side
    cases side with
    | none => simp [silent]
    | some own => simp
  have distinctSide : (two.getD empty).Distinct := by
    cases two with
    | none => exact fresh_empty.toDistinct
    | some other => exact distinct other rfl
  rw [filled one, filled two, ← states_merge distinctSide]
  unfold joined
  simp only
  split
  · rename_i nothing
    simp [States, List.isEmpty_iff.1 nothing]
  · simp

/-- A semicolon after a text that leaves no quote open parts a comment: it is read as the merge of
what stands on the two sides, and fails exactly if one of them does. So neither side hides anything
that the other one states. -/
theorem read?_parted (first second : String) (closed : QuotesClosed first.toList) :
    read? (first ++ ";" ++ second) = (do
      let one ← read? first
      let two ← read? second
      return joined one two) ∧
    ∀ one two, read? first = .ok one → read? second = .ok two → ∀ code part,
      (∃ whole ∈ joined one two, whole.States code part) ↔
        (∃ own ∈ one, own.States code part) ∨ ∃ own ∈ two, own.States code part := by
  constructor
  · have text : (first ++ ";" ++ second).toList = first.toList ++ ';' :: second.toList := by simp
    rw [read?, text, read_parted (.inl closed), read_eq_map_read? first, read_eq_map_read? second]
    cases read? first with
    | error fault => rfl
    | ok one => cases read? second <;> rfl
  · intro one two _ readSecond
    refine states_joined_iff one fun other found => ?_
    have isRead := read_eq_map_read? second
    rw [readSecond, found] at isRead
    exact (fresh_of_read isRead).toDistinct

/-- A quoted semicolon and an escaped quote part nothing; after the semicolon a quote may stay open,
and a code of the first text gets further details. -/
theorem read?_parted_open_quote :
    QuotesClosed "see [A-1]: 3 \"a;[B-1] \\\"\"; [C-2]".toList ∧
      read? "see [A-1]: 3 \"a;[B-1] \\\"\"; [C-2];[A-1]: 5 \"x" =
        .ok (joined
          (some { details := [("A-1", [{ column := 3, message := "a;[B-1] \"" }]), ("C-2", [])]
                  raised := [("A-1", false), ("C-2", false)] })
          (some { details := [("A-1", [{ column := 5 }])], raised := [("A-1", false)] })) := by
  refine ⟨by decide +kernel, ?_⟩
  have one : read? "see [A-1]: 3 \"a;[B-1] \\\"\"; [C-2]" = .ok (some
      { details := [("A-1", [{ column := 3, message := "a;[B-1] \"" }]), ("C-2", [])]
        raised := [("A-1", false), ("C-2", false)] }) := by decide +kernel
  have two : read? "[A-1]: 5 \"x" = .ok (some
      { details := [("A-1", [{ column := 5 }])], raised := [("A-1", false)] }) := by decide +kernel
  have parted := (read?_parted "see [A-1]: 3 \"a;[B-1] \\\"\"; [C-2]" "[A-1]: 5 \"x"
    (by decide +kernel)).1
  rw [one, two] at parted
  exact parted

end Expectation

end LintBench
