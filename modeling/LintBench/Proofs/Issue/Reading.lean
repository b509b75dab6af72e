import LintBench.Proofs.Issue.RoundTrip

/-!
# Which values are issues

A value is read as an issue, or it is a fault of its shape that is told with the value
in its text. There is one exception: an infinite line or column, which no whole number
stands for, is a fault of its own that the library has no words for. Which values have
one is said here by their parts, in the order in which these are read.
-/

namespace LintBench

/-! ## Infinite numbers -/

/-- Whether a value is an infinite number. -/
def Value.IsInfinite (value : Value) : Prop := ∃ negative, value = .decimal (.infinite negative)

/-- Whether a location comes upon an infinite number as it is read: its line is one, or its line is
read and its column is one. -/
inductive Location.Overflows : Value → Prop where
  /-- The line is infinite. -/
  | line {members : List (MemberKey × Value)}
      (infinite : (Value.memberOrNull members "line").IsInfinite) : Overflows (.object members)
  /-- The line is read, and the column is infinite. -/
  | column {members : List (MemberKey × Value)} {line : Int}
      (read : (Value.memberOrNull members "line").integerOrZero = .ok line)
      (infinite : (Value.memberOrNull members "column").IsInfinite) : Overflows (.object members)

/-- Whether a position comes upon an infinite number as it is read: in its start, or in its end
after its start is read. -/
inductive Position.Overflows : Value → Prop where
  /-- The start comes upon one. -/
  | start {members : List (MemberKey × Value)}
      (overflows : Location.Overflows (Value.memberOrNull members "start")) :
      Overflows (.object members)
  /-- The start is read, and the end comes upon one. -/
  | stop {members : List (MemberKey × Value)} {start : Location}
      (read : Location.ofValue ((Value.memberOrNull members "start").orElse (.object [])) =
        .ok start)
      (overflows : Location.Overflows (Value.memberOrNull members "end")) :
      Overflows (.object members)

/-- Whether an issue comes upon an infinite number as it is read: it has a code, and its position
comes upon one. -/
inductive Issue.Overflows : Value → Prop where
  /-- The position comes upon one. -/
  | position {members : List (MemberKey × Value)} {code : LooseText}
      (coded : Value.memberOrNull members "code" = .text code)
      (overflows : Position.Overflows (Value.memberOrNull members "position")) :
      Overflows (.object members)

/-- A missing value may stand for an empty object where only objects count, and an empty one does
not. -/
theorem Value.orElse_iff {counts : Value → Prop}
    (objects : ∀ value, counts value → ∃ members, value = .object members)
    (empty : ¬ counts (.object [])) (value : Value) :
    counts (value.orElse (.object [])) ↔ counts value := by
  rw [orElse]
  split
  · rename_i missing
    have absent : ¬ counts value := by
      intro counted
      obtain ⟨members, rfl⟩ := objects value counted
      rw [isMissing, List.isEmpty_iff] at missing
      exact empty (missing ▸ counted)
    exact iff_of_false empty absent
  · rfl

/-- The value in place of a missing one is no number too large. -/
theorem Location.overflows_orElse (value : Value) :
    Overflows (value.orElse (.object [])) ↔ Overflows value := by
  refine Value.orElse_iff ?_ ?_ value
  · rintro _ (_ | _)
    · exact ⟨_, rfl⟩
    · exact ⟨_, rfl⟩
  · rintro (⟨_, infinite⟩ | ⟨_, _, infinite⟩)
    · cases infinite
    · cases infinite

/-- The value in place of a missing one holds no number too large. -/
theorem Position.overflows_orElse (value : Value) :
    Overflows (value.orElse (.object [])) ↔ Overflows value := by
  refine Value.orElse_iff ?_ ?_ value
  · rintro _ (_ | _)
    · exact ⟨_, rfl⟩
    · exact ⟨_, rfl⟩
  · rintro (overflows | ⟨_, overflows⟩)
    · cases overflows
    · cases overflows

/-! ## Reading the parts of an issue -/

/-- Exactly an infinite number is infinite as a whole number. -/
theorem Value.integerOrZero_eq_infinite_iff (value : Value) :
    value.integerOrZero = .error .infinite ↔ value.IsInfinite := by
  constructor
  · intro failed
    rw [integerOrZero] at failed
    split at failed
    · cases failed
    · cases value with
      | decimal number =>
        cases number with
        | finite => cases failed
        | infinite negative => exact ⟨negative, rfl⟩
        | nan => cases failed
      | text value =>
        rw [toInteger] at failed
        split at failed <;> cases failed
      | bytes value =>
        rw [toInteger] at failed
        split at failed <;> cases failed
      | _ => cases failed
  · rintro ⟨negative, rfl⟩
    rfl

/-- A location is infinite exactly where it comes upon an infinite number. -/
theorem Location.ofValue_eq_infinite_iff (value : Value) :
    ofValue value = .error .infinite ↔ Overflows value := by
  constructor
  · intro failed
    cases value with
    | object members =>
      obtain failed | ⟨line, read, later⟩ := Runs.bind_eq_error.1 failed
      · exact .line ((Value.integerOrZero_eq_infinite_iff _).1 failed)
      · obtain failed | ⟨column, -, done⟩ := Runs.bind_eq_error.1 later
        · exact .column read ((Value.integerOrZero_eq_infinite_iff _).1 failed)
        · cases done
    | _ => cases failed
  · rintro (infinite | ⟨read, infinite⟩)
    · exact Runs.bind_eq_error.2 (.inl ((Value.integerOrZero_eq_infinite_iff _).2 infinite))
    · refine Runs.bind_eq_error.2 (.inr ⟨_, read, Runs.bind_eq_error.2 (.inl ?_)⟩)
      exact (Value.integerOrZero_eq_infinite_iff _).2 infinite

/-- The end of a position is infinite exactly where it comes upon an infinite number. -/
theorem Position.readStop_eq_infinite_iff (value : Value) :
    readStop value = .error .infinite ↔ Location.Overflows value := by
  rw [← Location.ofValue_eq_infinite_iff]
  unfold readStop
  split
  · constructor
    · intro failed
      cases failed
    · intro failed
      cases failed
  · cases Location.ofValue value with
    | error fault => simp [Except.map]
    | ok stop => simp [Except.map]

/-- A position is infinite exactly where it comes upon an infinite number. -/
theorem Position.ofValue_eq_infinite_iff (value : Value) :
    ofValue value = .error .infinite ↔ Overflows value := by
  constructor
  · intro failed
    cases value with
    | object members =>
      rw [ofValue_object] at failed
      obtain failed | ⟨start, read, later⟩ := Runs.bind_eq_error.1 failed
      · exact .start ((Location.overflows_orElse _).1 ((Location.ofValue_eq_infinite_iff _).1 failed))
      · obtain failed | ⟨stop, -, done⟩ := Runs.bind_eq_error.1 later
        · exact .stop read ((readStop_eq_infinite_iff _).1 failed)
        · cases done
    | _ => cases failed
  · rintro (overflows | ⟨read, overflows⟩)
    · rw [ofValue_object]
      refine Runs.bind_eq_error.2 (.inl ((Location.ofValue_eq_infinite_iff _).2 ?_))
      exact (Location.overflows_orElse _).2 overflows
    · rw [ofValue_object]
      refine Runs.bind_eq_error.2 (.inr ⟨_, read, Runs.bind_eq_error.2 (.inl ?_)⟩)
      exact (readStop_eq_infinite_iff _).2 overflows

/-- Without a code there is no issue. -/
theorem Issue.ofValue_of_no_code {value : Value}
    (uncoded : ∀ members code, value = .object members →
      Value.memberOrNull members "code" ≠ .text code) :
    ofValue value = .error (.invalidIssue value) := by
  unfold ofValue
  split
  · split
    · rename_i code coded
      exact absurd coded (uncoded _ code rfl)
    · rfl
  · rfl

/-- A value is an object with a code, or it has none. -/
theorem Issue.code_or_no_code (value : Value) :
    (∃ members code, value = .object members ∧
        Value.memberOrNull members "code" = .text code) ∨
      ofValue value = .error (.invalidIssue value) := by
  by_cases coded : ∃ members code, value = .object members ∧
      Value.memberOrNull members "code" = .text code
  · exact .inl coded
  · push Not at coded
    exact .inr (ofValue_of_no_code fun members code same => coded members code same)

/-- An infinite line or column is a fault of an issue exactly where the issue comes upon it. -/
theorem Issue.ofValue_eq_infiniteNumber_iff (value : Value) :
    ofValue value = .error .infiniteNumber ↔ Overflows value := by
  constructor
  · intro failed
    obtain ⟨members, code, rfl, coded⟩ | invalid := code_or_no_code value
    · rw [ofValue_of_code coded] at failed
      split at failed
      · cases failed
      · rename_i infinite
        refine .position coded ?_
        exact (Position.overflows_orElse _).1 ((Position.ofValue_eq_infinite_iff _).1 infinite)
      · cases failed
    · rw [invalid] at failed
      cases failed
  · rintro ⟨coded, overflows⟩
    have infinite := (Position.ofValue_eq_infinite_iff _).2
      ((Position.overflows_orElse _).2 overflows)
    rw [ofValue_of_code coded, infinite]

/-- Any other value is read as an issue, or it is told as what it is. -/
theorem Issue.ofValue_of_not_overflows {value : Value} (finite : ¬ Overflows value) :
    (∃ issue, ofValue value = .ok issue) ∨ ofValue value = .error (.invalidIssue value) ∨
      ofValue value = .error (.invalidPosition value) := by
  rw [← ofValue_eq_infiniteNumber_iff] at finite
  obtain ⟨members, code, rfl, coded⟩ | invalid := code_or_no_code value
  · rw [ofValue_of_code coded] at finite ⊢
    split
    · exact .inl ⟨_, rfl⟩
    · rename_i infinite
      rw [infinite] at finite
      exact absurd rfl finite
    · exact .inr (.inr rfl)
  · exact .inr (.inl invalid)

/-- Exactly an infinite line or column is a fault without words. -/
theorem ResultFault.message?_eq_none_iff (fault : ResultFault) :
    fault.message? = none ↔ fault = .infiniteNumber := by
  cases fault <;> simp [message?]

/-! ## Reading the issues of a result -/

/-- Whether an infinite number keeps an object from being read as a result: the first of its items
that is no issue comes upon one. -/
def ResultOverflows (members : List (MemberKey × Value)) : Prop :=
  ∃ before item after,
    Value.memberOrNull members "issues" = .list (before ++ item :: after) ∧
      (∀ other ∈ before, ∃ issue, Issue.ofValue other = .ok issue) ∧ Issue.Overflows item

/-- Whether the files of an object's issues are normalized without a fault, be they there or not. -/
def FilesNormalize (tree : Tree) (codeDir : Path) (members : List (MemberKey × Value)) : Prop :=
  ∀ items, Value.memberOrNull members "issues" = .list items →
    ∀ item ∈ items, ∀ issue, Issue.ofValue item = .ok issue → issue.Normalizes tree codeDir

section Result

variable {members : List (MemberKey × Value)}

/-- A list of issues is read item by item. -/
theorem issuesOfValue_of_list {items : List Value}
    (listed : Value.memberOrNull members "issues" = .list items) :
    issuesOfValue (.object members) = items.mapM Issue.ofValue := by
  rw [issuesOfValue, listed]
  cases items <;> rfl

/-- The issues of an object are a list of them, or they are none, or it is told that they are no
list. -/
theorem issuesOfValue_cases (members : List (MemberKey × Value)) :
    (∃ items, Value.memberOrNull members "issues" = .list items ∧
        issuesOfValue (.object members) = items.mapM Issue.ofValue) ∨
      issuesOfValue (.object members) = .ok [] ∨
      issuesOfValue (.object members) = .error .issuesNotList := by
  by_cases listed : ∃ items, Value.memberOrNull members "issues" = .list items
  · obtain ⟨items, listed⟩ := listed
    exact .inl ⟨items, listed, issuesOfValue_of_list listed⟩
  · push Not at listed
    refine .inr ?_
    rw [issuesOfValue, Value.orElse]
    by_cases missing : (Value.memberOrNull members "issues").isMissing = true
    · rw [if_pos missing]
      exact .inl rfl
    · rw [if_neg missing]
      refine .inr ?_
      split
      · rename_i items same
        exact absurd same (listed items)
      · rfl

/-- The issues of an object have an infinite line or column exactly where the first item that is
none comes upon it. -/
theorem issuesOfValue_eq_infiniteNumber_iff :
    issuesOfValue (.object members) = .error .infiniteNumber ↔ ResultOverflows members := by
  constructor
  · intro failed
    obtain ⟨items, listed, each⟩ | empty | told := issuesOfValue_cases members
    · rw [each] at failed
      obtain ⟨before, item, after, rfl, read, infinite⟩ := Runs.mapM_eq_error.1 failed
      exact ⟨before, item, after, listed, read, (Issue.ofValue_eq_infiniteNumber_iff item).1 infinite⟩
    · rw [empty] at failed
      cases failed
    · rw [told] at failed
      cases failed
  · rintro ⟨before, item, after, listed, read, overflows⟩
    rw [issuesOfValue_of_list listed]
    exact Runs.mapM_eq_error.2 ⟨before, item, after, rfl, read,
      (Issue.ofValue_eq_infiniteNumber_iff item).2 overflows⟩

variable {tree : Tree} {codeDir : Path}

/-- An issue whose file is normalized is resolved. -/
theorem Issue.Normalizes.exists_resolveFile {issue : Issue}
    (normalized : issue.Normalizes tree codeDir) :
    ∃ resolved, issue.resolveFile tree codeDir = .ok resolved := by
  obtain ⟨place, found⟩ := normalized
  exact ⟨_, Runs.bind_eq_ok.2 ⟨place, found, rfl⟩⟩

/-- An object is read as a result where its issues are, if their files are normalized. -/
theorem exists_readResult {issues : List Issue} (normalized : FilesNormalize tree codeDir members)
    (read : issuesOfValue (.object members) = .ok issues) :
    ∃ resolved, readResult tree codeDir (.object members) = .ok resolved := by
  have each : ∀ issue ∈ issues, ∃ resolved, issue.resolveFile tree codeDir = .ok resolved := by
    intro issue member
    obtain ⟨items, listed, each⟩ | empty | told := issuesOfValue_cases members
    · rw [each] at read
      obtain ⟨item, inside, same⟩ := (Runs.mem_of_mapM read).1 member
      exact (normalized items listed item inside issue same).exists_resolveFile
    · rw [empty] at read
      cases read
      cases member
    · rw [told] at read
      cases read
  obtain ⟨resolved, ran⟩ := Runs.exists_mapM each
  refine ⟨resolved, Runs.bind_eq_ok.2 ⟨issues, Runs.mapError_eq_ok.2 read, ?_⟩⟩
  exact Runs.mapError_eq_ok.2 ran

/-- An infinite number is the fault of an object exactly where it keeps the object from being read.
-/
theorem readResult_eq_infiniteNumber_iff (tree : Tree) (codeDir : Path)
    (members : List (MemberKey × Value)) :
    readResult tree codeDir (.object members) = .error (.result .infiniteNumber) ↔
      ResultOverflows members := by
  rw [← issuesOfValue_eq_infiniteNumber_iff, readResult]
  cases issuesOfValue (.object members) with
  | error fault => simp [Except.mapError, bind, Except.bind]
  | ok issues =>
    simp only [Except.mapError, bind, Except.bind]
    cases issues.mapM (Issue.resolveFile tree codeDir) <;> simp

/-- Any other object whose files are normalized is read as a result, or it fails with a fault that
the library has words for. -/
theorem readResult_of_not_overflows (normalized : FilesNormalize tree codeDir members)
    (finite : ¬ ResultOverflows members) :
    (∃ issues, readResult tree codeDir (.object members) = .ok issues) ∨
      ∃ fault message, readResult tree codeDir (.object members) = .error (.result fault) ∧
        fault.message? = some message := by
  cases read : issuesOfValue (.object members) with
  | ok issues => exact .inl (exists_readResult normalized read)
  | error fault =>
    rw [← issuesOfValue_eq_infiniteNumber_iff, read, Except.error.injEq,
      ← ResultFault.message?_eq_none_iff] at finite
    obtain ⟨message, words⟩ := Option.ne_none_iff_exists'.1 finite
    refine .inr ⟨fault, message, ?_, words⟩
    rw [readResult, read]
    rfl

end Result

end LintBench
