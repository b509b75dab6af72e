import LintBench.Issue.Conversion
import LintBench.Proofs.Issue.Reading

/-!
# Which documents are converted

A document of the Marvin runner is converted, or it is a fault. Most faults are told;
those of issues that have no items, and of lines and columns that are no numbers at
all, are not. Which documents have such a fault is said here by their parts, in the
order in which these are read.
-/

namespace LintBench

/-- Whether a fault of a conversion is not told. -/
inductive MarvinFault.Untold : MarvinFault → Prop where
  /-- The issues have no items. -/
  | noItems : Untold .noItems
  /-- A line or column is infinite. -/
  | infinite : Untold (.number .infinite)
  /-- A line or column is of a type without numbers. -/
  | wrongType : Untold (.number .wrongType)

/-- Whether a conversion comes to a fault that is not told. -/
def FailsUntold {α : Type} (conversion : Except MarvinFault α) : Prop :=
  ∃ fault, conversion = .error fault ∧ fault.Untold

section Conversions

variable {α β : Type}

/-- What succeeds does not fail. -/
@[simp] theorem not_failsUntold_ok (value : α) : ¬ FailsUntold (.ok value) := by
  rintro ⟨fault, failed, -⟩
  cases failed

/-- A failure is untold if its fault is. -/
@[simp] theorem failsUntold_error_iff {fault : MarvinFault} :
    FailsUntold (.error fault : Except MarvinFault α) ↔ fault.Untold := by
  constructor
  · rintro ⟨other, same, untold⟩
    cases same
    exact untold
  · intro untold
    exact ⟨fault, rfl, untold⟩

/-- Two conversions one after the other fail untold exactly when the first one does, or the second
one after it. -/
theorem failsUntold_bind_iff {first : Except MarvinFault α} {next : α → Except MarvinFault β} :
    FailsUntold (first >>= next) ↔
      FailsUntold first ∨ ∃ value, first = .ok value ∧ FailsUntold (next value) := by
  cases first with
  | error fault => simp [bind, Except.bind]
  | ok value => simp [bind, Except.bind]

end Conversions

/-! ## Lines and columns -/

/-- Whether a value is no number at all: an infinite one, or what is no number, is there, and is no
text that could be one. -/
inductive Value.Numberless : Value → Prop where
  /-- An infinite number. -/
  | infinite (negative : Bool) : Numberless (.decimal (.infinite negative))
  /-- A list of something. -/
  | list (item : Value) (rest : List Value) : Numberless (.list (item :: rest))
  /-- An object with members. -/
  | object (member : MemberKey × Value) (rest : List (MemberKey × Value)) :
    Numberless (.object (member :: rest))
  /-- Data of another type. -/
  | extension (code : Int) (data : Text.Bytes) : Numberless (.extension code data)
  /-- A time. -/
  | timestamp (seconds : Int) (nanoseconds : Nat) : Numberless (.timestamp seconds nanoseconds)

/-- Exactly what is no number at all has a fault other than that of a text that is no numeral. -/
theorem Value.integerOrZero_eq_error_iff (value : Value) :
    (∃ fault, value.integerOrZero = .error fault ∧ fault ≠ .notNumeric) ↔ value.Numberless := by
  constructor
  · rintro ⟨fault, failed, other⟩
    rw [integerOrZero] at failed
    split at failed
    · cases failed
    · rename_i present
      cases value with
      | null => exact absurd rfl present
      | decimal number =>
        cases number with
        | finite => cases failed
        | infinite negative => exact .infinite negative
        | nan =>
          cases failed
          exact absurd rfl other
      | text value =>
        rw [toInteger] at failed
        split at failed
        · cases failed
        · cases failed
          exact absurd rfl other
      | bytes value =>
        rw [toInteger] at failed
        split at failed
        · cases failed
        · cases failed
          exact absurd rfl other
      | list items =>
        cases items with
        | nil => exact absurd rfl present
        | cons item rest => exact .list item rest
      | object members =>
        cases members with
        | nil => exact absurd rfl present
        | cons member rest => exact .object member rest
      | extension code data => exact .extension code data
      | timestamp seconds nanoseconds => exact .timestamp seconds nanoseconds
      | bool | integer => cases failed
  · intro numberless
    cases numberless with
    | infinite => exact ⟨.infinite, rfl, by simp⟩
    | list | object | extension | timestamp => exact ⟨.wrongType, rfl, by simp⟩

/-- Whether a location comes upon what is no number at all: its line is that, or its line is read
and its column is that. -/
inductive Location.Numberless : Value → Prop where
  /-- The line is no number. -/
  | line {members : List (MemberKey × Value)}
      (line : (Value.memberOrNull members "line").Numberless) : Numberless (.object members)
  /-- The line is read, and the column is no number. -/
  | column {members : List (MemberKey × Value)} {line : Int}
      (read : (Value.memberOrNull members "line").integerOrZero = .ok line)
      (column : (Value.memberOrNull members "column").Numberless) : Numberless (.object members)

/-- Of the faults of numbers that of a text that is no numeral is told. -/
theorem MarvinFault.untold_number_iff (fault : NumberFault) :
    Untold (.number fault) ↔ fault ≠ .notNumeric := by
  constructor
  · rintro (_ | _) <;> simp
  · intro other
    cases fault with
    | notNumeric => exact absurd rfl other
    | infinite => exact .infinite
    | wrongType => exact .wrongType

/-- A number fails untold if the value is none. -/
theorem failsUntold_number_iff (value : Value) :
    FailsUntold (value.integerOrZero.mapError .number) ↔ value.Numberless := by
  rw [← Value.integerOrZero_eq_error_iff]
  cases value.integerOrZero with
  | ok number => simp [Except.mapError]
  | error fault => simp [Except.mapError, MarvinFault.untold_number_iff]

namespace Marvin

/-- A location fails untold exactly where it comes upon what is no number at all. -/
theorem failsUntold_location_iff (value : Value) :
    FailsUntold (location value) ↔ Location.Numberless value := by
  cases value with
  | object members =>
    have wrapped : location (.object members) = (do
        let line ← (Value.memberOrNull members "line").integerOrZero.mapError .number
        let column ← (Value.memberOrNull members "column").integerOrZero.mapError .number
        return { line, column }) := by
      rw [location, Location.ofMembers]
      cases (Value.memberOrNull members "line").integerOrZero with
      | error fault => rfl
      | ok line => cases (Value.memberOrNull members "column").integerOrZero <;> rfl
    rw [wrapped, failsUntold_bind_iff, failsUntold_number_iff]
    constructor
    · rintro (line | ⟨line, read, later⟩)
      · exact .line line
      · obtain column | ⟨column, -, done⟩ := failsUntold_bind_iff.1 later
        · exact .column (Runs.mapError_eq_ok.1 read) ((failsUntold_number_iff _).1 column)
        · exact absurd done (not_failsUntold_ok _)
    · rintro (line | ⟨read, column⟩)
      · exact .inl line
      · refine .inr ⟨_, Runs.mapError_eq_ok.2 read, failsUntold_bind_iff.2 (.inl ?_)⟩
        exact (failsUntold_number_iff _).2 column
  | _ => exact iff_of_false (not_failsUntold_ok _) (by rintro ⟨⟩)

/-! ## Issues -/

/-- Whether a value has members: it is an object with these, or it is nothing and has none. -/
inductive HasMembers : Value → List (MemberKey × Value) → Prop where
  /-- Nothing has no members. -/
  | none : HasMembers .null []
  /-- An object has its own. -/
  | object (members : List (MemberKey × Value)) : HasMembers (.object members) members

/-- The members of a value are those that it has. -/
theorem membersOr_eq_ok_iff {fault : Value → MarvinFault} {value : Value}
    {members : List (MemberKey × Value)} :
    membersOr fault value = .ok members ↔ HasMembers value members := by
  constructor
  · intro found
    cases value with
    | null =>
      cases found
      exact .none
    | object =>
      cases found
      exact .object _
    | _ => cases found
  · rintro (_ | _) <;> rfl

/-- What has no members is told where that is told of any value. -/
theorem not_failsUntold_membersOr {fault : Value → MarvinFault} (told : ∀ value, ¬ (fault value).Untold)
    (value : Value) : ¬ FailsUntold (membersOr fault value) := by
  cases value with
  | null | object => exact not_failsUntold_ok _
  | _ => simpa only [membersOr, failsUntold_error_iff] using told _

/-- Whether an issue comes upon what is no number at all as it is converted: in the start of its
position, or in the end after the start is read. -/
inductive Numberless : Value → Prop where
  /-- The start comes upon it. -/
  | start {members place position : List (MemberKey × Value)}
      (located : HasMembers (Value.memberOrNull members "location") place)
      (positioned : HasMembers (Value.memberOrNull place "position") position)
      (start : Location.Numberless (Value.memberOrNull position "begin")) :
      Numberless (.object members)
  /-- The start is read, and the end comes upon it. -/
  | stop {members place position : List (MemberKey × Value)} {start : Location}
      (located : HasMembers (Value.memberOrNull members "location") place)
      (positioned : HasMembers (Value.memberOrNull place "position") position)
      (read : location (Value.memberOrNull position "begin") = .ok start)
      (stop : Location.Numberless (Value.memberOrNull position "end")) :
      Numberless (.object members)

/-- An issue fails untold exactly where it comes upon what is no number at all. -/
theorem failsUntold_issue_iff (value : Value) : FailsUntold (issue value) ↔ Numberless value := by
  have toldLocation (value : Value) : ¬ (MarvinFault.invalidLocation value).Untold := by
    rintro ⟨⟩
  have toldPosition (value : Value) : ¬ (MarvinFault.invalidPosition value).Untold := by
    rintro ⟨⟩
  cases value with
  | object members =>
    simp only [issue, failsUntold_bind_iff, membersOr_eq_ok_iff,
      not_failsUntold_membersOr toldLocation, not_failsUntold_membersOr toldPosition, false_or,
      failsUntold_location_iff]
    constructor
    · rintro ⟨place, located, position, positioned, start | ⟨start, read, stop | ⟨_, _, done⟩⟩⟩
      · exact .start located positioned start
      · exact .stop located positioned read stop
      · exact absurd done (not_failsUntold_ok _)
    · rintro (⟨located, positioned, start⟩ | ⟨located, positioned, read, stop⟩)
      · exact ⟨_, located, _, positioned, .inl start⟩
      · exact ⟨_, located, _, positioned, .inr ⟨_, read, .inl stop⟩⟩
  | _ =>
    refine iff_of_false ?_ (by rintro ⟨⟩)
    rw [issue, failsUntold_error_iff]
    · rintro ⟨⟩
    · rintro _ ⟨⟩

/-! ## Documents -/

/-- Whether a value is there but cannot be gone through item by item. -/
inductive Itemless : Value → Prop where
  /-- The truth value that holds. -/
  | bool : Itemless (.bool true)
  /-- A whole number other than zero. -/
  | integer {number : Int} (present : number ≠ 0) : Itemless (.integer number)
  /-- Another number than zero. -/
  | decimal {number : Double} (present : number.isZero = false) : Itemless (.decimal number)
  /-- A time. -/
  | timestamp (seconds : Int) (nanoseconds : Nat) : Itemless (.timestamp seconds nanoseconds)

/-- Exactly such values have no items where an empty list stands in for a missing one. -/
theorem items?_eq_none_iff (value : Value) :
    items? (value.orElse (.list [])) = none ↔ Itemless value := by
  rw [Value.orElse]
  constructor
  · intro none
    split at none
    · cases none
    · rename_i present
      cases value with
      | null => exact absurd rfl present
      | bool value =>
        cases value with
        | true => exact .bool
        | false => exact absurd rfl present
      | integer number => exact .integer (by simpa [Value.isMissing] using present)
      | decimal number => exact .decimal (by simpa [Value.isMissing] using present)
      | timestamp seconds nanoseconds => exact .timestamp seconds nanoseconds
      | text | bytes | list | object | extension => cases none
  · intro itemless
    cases itemless with
    | bool => rfl
    | integer present => simp [Value.isMissing, present, items?]
    | decimal present => simp [Value.isMissing, present, items?]
    | timestamp => rfl

/-- An object is among the items of lists alone. -/
theorem list_of_object_mem {value : Value} {items : List Value} {members : List (MemberKey × Value)}
    (listed : items? value = some items) (member : .object members ∈ items) : value = .list items := by
  cases value with
  | list =>
    cases listed
    rfl
  | text | bytes =>
    cases listed
    simp at member
  | object =>
    cases listed
    obtain ⟨⟨key, value⟩, -, same⟩ := List.mem_map.1 member
    cases key <;> cases same
  | extension =>
    cases listed
    simp at member
  | null | bool | integer | decimal | timestamp => cases listed

/-- Whether a document is shaped so that its fault is not told: its issues have no items, or the
first of them that is not converted comes upon what is no number at all. -/
inductive Misshapen (members : List (MemberKey × Value)) : Prop where
  /-- The issues have no items. -/
  | noItems (itemless : Itemless (Value.memberOrNull members "issues"))
  /-- The first issue that is not converted comes upon what is no number at all. -/
  | item {before after : List Value} {item : Value}
      (listed : Value.memberOrNull members "issues" = .list (before ++ item :: after))
      (converted : ∀ other ∈ before, ∃ converted, issue other = .ok converted)
      (numberless : Numberless item)

/-- A document fails untold exactly if it is shaped so. -/
theorem failsUntold_issues_iff (members : List (MemberKey × Value)) :
    FailsUntold (issues members) ↔ Misshapen members := by
  constructor
  · rintro ⟨fault, failed, untold⟩
    rw [issues] at failed
    split at failed
    · rename_i items listed
      obtain ⟨before, item, after, rfl, converted, here⟩ := Runs.mapM_eq_error.1 failed
      have numberless := (failsUntold_issue_iff item).1 ⟨fault, here, untold⟩
      have inside : item ∈ before ++ item :: after := by simp
      have whole : (Value.memberOrNull members "issues").orElse (.list []) =
          .list (before ++ item :: after) := by
        cases numberless with
        | start => exact list_of_object_mem listed inside
        | stop => exact list_of_object_mem listed inside
      rw [Value.orElse] at whole
      split at whole
      · simp at whole
      · exact .item whole converted numberless
    · rename_i listed
      exact .noItems ((items?_eq_none_iff _).1 listed)
  · rintro (itemless | ⟨listed, converted, numberless⟩)
    · refine ⟨.noItems, ?_, .noItems⟩
      rw [issues, (items?_eq_none_iff _).2 itemless]
    · obtain ⟨fault, failed, untold⟩ := (failsUntold_issue_iff _).2 numberless
      refine ⟨fault, ?_, untold⟩
      rw [issues, listed, Value.orElse, if_neg (by simp [Value.isMissing]), items?]
      exact Runs.mapM_eq_error.2 ⟨_, _, _, rfl, converted, failed⟩

end Marvin

end LintBench
