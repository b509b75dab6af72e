import LintBench.Issue.Conversion
import LintBench.Proofs.Files.Computing
import LintBench.Proofs.Issue.RoundTrip

/-!
# Converted results are read back

A result of the Marvin runner whose texts are strings and whose whole numbers are
short is converted to issues of the same kind: a line is at most cut from a number of
double precision or read from a numeral, and neither makes it long. So what the
conversion prints is read back as the issues it was printed for.
-/

namespace LintBench

/-! ## Whole numbers -/

/-- A number of one digit is short. -/
theorem Json.isShort_of_lt_ten {number : Int} (small : number.natAbs < 10) : IsShort number :=
  Nat.lt_of_lt_of_le small (Nat.le_self_pow (by decide) 10)

namespace Text

/-- Digits spell a number that needs no more of them. -/
theorem foldl_digits_lt {values : List Nat} (digits : ∀ value ∈ values, value < 10) (start : Nat) :
    values.foldl (fun n value => n * 10 + value) start < (start + 1) * 10 ^ values.length := by
  induction values generalizing start with
  | nil => simp
  | cons value rest ih =>
    obtain ⟨small, others⟩ := List.forall_mem_cons.1 digits
    calc (value :: rest).foldl (fun n value => n * 10 + value) start
        < (start * 10 + value + 1) * 10 ^ rest.length := ih others _
      _ ≤ ((start + 1) * 10) * 10 ^ rest.length := Nat.mul_le_mul_right _ (by omega)
      _ = (start + 1) * 10 ^ (value :: rest).length := by
        rw [List.length_cons, Nat.pow_succ, Nat.mul_assoc, Nat.mul_comm 10]

/-- Digits that are not too many spell a short number. -/
theorem lt_of_readDigits {digits : List Char} {size : Nat} (read : readDigits digits = some size) :
    size < 10 ^ digitLimit := by
  rw [readDigits, Option.ite_none_right_eq_some] at read
  obtain ⟨few, same⟩ := read
  cases same
  have each : ∀ value ∈ digits.filterMap digitValue?, value < 10 := by
    intro value member
    obtain ⟨c, -, digit⟩ := List.mem_filterMap.1 member
    exact digitValue?_lt digit
  have fewer : (digits.filterMap digitValue?).length ≤ digitLimit :=
    Nat.le_trans (List.length_filterMap_le _ _) few
  calc numberOfDigits (digits.filterMap digitValue?)
      < (0 + 1) * 10 ^ (digits.filterMap digitValue?).length := foldl_digits_lt each 0
    _ ≤ 10 ^ digitLimit := by
      rw [Nat.zero_add, Nat.one_mul]
      exact Nat.pow_le_pow_right (by decide) fewer

/-- A numeral that is read is short. -/
theorem isShort_of_readInteger {text : List Char} {number : Int}
    (read : readInteger text = some number) : Json.IsShort number := by
  have magnitude {unsigned : List Char} {size : Nat}
      (found : (separatedDigits? unsigned).bind readDigits = some size) :
      size < 10 ^ digitLimit := by
    obtain ⟨digits, -, value⟩ := Option.bind_eq_some_iff.1 found
    exact lt_of_readDigits value
  rw [readInteger] at read
  split at read
  all_goals
    obtain ⟨size, found, rfl⟩ := Option.map_eq_some_iff.1 read
    have small := magnitude found
    simpa [Json.IsShort] using small

end Text

/-- Whether the parts of a number are in the range of double precision. -/
def Double.IsProper : Double → Prop
  | .finite _ mantissa exponent => mantissa < 2 ^ 53 ∧ exponent ≤ greatestExponent
  | .infinite _ | .nan => True

/-- The whole part of a number of double precision is short. -/
theorem Double.isShort_of_truncate? {number : Double} (proper : number.IsProper) {whole : Int}
    (found : number.truncate? = some whole) : Json.IsShort whole := by
  cases number with
  | finite negative mantissa exponent =>
    obtain ⟨small, low⟩ := proper
    cases found
    have magnitude : scaled mantissa exponent / twoTo (-exponent).toNat < 10 ^ Text.digitLimit := by
      have power : exponent.toNat ≤ 971 := by
        rw [greatestExponent] at low
        omega
      have few : 53 + exponent.toNat ≤ Text.digitLimit := by
        rw [Text.digitLimit]
        omega
      calc scaled mantissa exponent / twoTo (-exponent).toNat
          ≤ mantissa * 2 ^ exponent.toNat := Nat.div_le_self _ _
        _ < 2 ^ 53 * 2 ^ exponent.toNat := Nat.mul_lt_mul_of_pos_right small (Nat.two_pow_pos _)
        _ = 2 ^ (53 + exponent.toNat) := (Nat.pow_add 2 53 _).symm
        _ ≤ 10 ^ (53 + exponent.toNat) := Nat.pow_le_pow_left (by decide) _
        _ ≤ 10 ^ Text.digitLimit := Nat.pow_le_pow_right (by decide) few
    rw [Json.IsShort]
    cases negative
    · exact magnitude
    · rw [if_pos rfl, Int.natAbs_neg]
      exact magnitude
  | infinite negative => cases found
  | nan => cases found

/-! ## Plain documents -/

/-- Whether the texts of a value are strings, its whole numbers short enough to be read, and its
other numbers of double precision. -/
inductive Value.IsPlain : Value → Prop where
  /-- Nothing. -/
  | null : IsPlain .null
  /-- A truth value. -/
  | bool (value : Bool) : IsPlain (.bool value)
  /-- A whole number that is short enough. -/
  | integer {number : Int} (short : Json.IsShort number) : IsPlain (.integer number)
  /-- A number of double precision. -/
  | decimal {number : Double} (proper : number.IsProper) : IsPlain (.decimal number)
  /-- A text without halves of surrogate pairs. -/
  | text (string : String) : IsPlain (.text (.ofString string))
  /-- Bytes. -/
  | bytes (data : Text.Bytes) : IsPlain (.bytes data)
  /-- A list of such values. -/
  | list {items : List Value} (each : ∀ item ∈ items, IsPlain item) : IsPlain (.list items)
  /-- An object of such values. -/
  | object {members : List (MemberKey × Value)} (each : ∀ member ∈ members, IsPlain member.2) :
      IsPlain (.object members)
  /-- Bytes with the code of their meaning. -/
  | extension (code : Int) (data : Text.Bytes) : IsPlain (.extension code data)
  /-- A point in time. -/
  | timestamp (seconds : Int) (nanoseconds : Nat) : IsPlain (.timestamp seconds nanoseconds)

namespace Value.IsPlain

/-- An object of plain members is plain. -/
theorem ofMembers {members : List (String × Value)} (each : ∀ member ∈ members, member.2.IsPlain) :
    (Value.ofMembers members).IsPlain := by
  refine .object fun member inside => ?_
  obtain ⟨original, given, rfl⟩ := List.mem_map.1 inside
  exact each original given

/-- A member of a plain object is plain. -/
theorem memberOrNull {members : List (MemberKey × Value)}
    (each : ∀ member ∈ members, member.2.IsPlain) (key : String) :
    (Value.memberOrNull members key).IsPlain := by
  rw [Value.memberOrNull]
  cases found : member? members key with
  | none => exact .null
  | some value =>
    obtain ⟨member, listed, rfl⟩ := Option.map_eq_some_iff.1 found
    exact each member (List.mem_of_find?_eq_some listed)

/-- The text of a plain value is a string. -/
theorem textOrEmpty {value : Value} (plain : value.IsPlain) : value.textOrEmpty.IsString := by
  rw [Value.textOrEmpty]
  split
  · exact ⟨"", rfl⟩
  · cases plain with
    | text string => exact ⟨string, rfl⟩
    | _ => exact ⟨_, rfl⟩

/-- The whole number of a plain value is short. -/
theorem toInteger {value : Value} (plain : value.IsPlain) {number : Int}
    (read : value.toInteger = .ok number) : Json.IsShort number := by
  cases plain with
  | null => cases read
  | bool value =>
    cases read
    cases value <;> exact Json.isShort_of_lt_ten (by decide)
  | integer short =>
    cases read
    exact short
  | @decimal decimal proper =>
    cases decimal with
    | nan => cases read
    | infinite negative => cases read
    | finite negative mantissa exponent =>
      cases read
      exact Double.isShort_of_truncate? proper rfl
  | text string =>
    rw [Value.toInteger, LooseText.toString?_ofString, Option.bind_some] at read
    split at read
    · rename_i found
      cases read
      exact Text.isShort_of_readInteger found
    · cases read
  | bytes data =>
    rw [Value.toInteger] at read
    split at read
    · rename_i found
      cases read
      rw [numeralOfBytes, Option.ite_none_right_eq_some] at found
      exact Text.isShort_of_readInteger found.2
    · cases read
  | list each => cases read
  | object each => cases read
  | extension code data => cases read
  | timestamp seconds nanoseconds => cases read

/-- The whole number of a plain value is short, also where a missing one is zero. -/
theorem integerOrZero {value : Value} (plain : value.IsPlain) {number : Int}
    (read : value.integerOrZero = .ok number) : Json.IsShort number := by
  rw [Value.integerOrZero] at read
  split at read
  · cases read
    exact Json.isShort_of_lt_ten (by decide)
  · exact plain.toInteger read

/-- A location of a plain document is short. -/
theorem location {value : Value} (plain : value.IsPlain) {location : Location}
    (read : Marvin.location value = .ok location) : location.IsShort := by
  have zero : ({} : Location).IsShort :=
    ⟨Json.isShort_of_lt_ten (by decide), Json.isShort_of_lt_ten (by decide)⟩
  cases plain with
  | @object members each =>
    have read : Location.ofMembers members = .ok location := Runs.mapError_eq_ok.1 read
    obtain ⟨line, lineRead, rest⟩ := Runs.bind_eq_ok.1 read
    obtain ⟨column, columnRead, same⟩ := Runs.bind_eq_ok.1 rest
    cases same
    exact ⟨(memberOrNull each _).integerOrZero lineRead, (memberOrNull each _).integerOrZero columnRead⟩
  | _ =>
    cases read
    exact zero

/-- The members of a plain object are plain, also where nothing is an empty one. -/
theorem membersOr {value : Value} (plain : value.IsPlain) {fault : Value → MarvinFault}
    {members : List (MemberKey × Value)} (read : Marvin.membersOr fault value = .ok members) :
    ∀ member ∈ members, member.2.IsPlain := by
  cases plain with
  | null =>
    cases read
    simp
  | object each =>
    cases read
    exact each
  | _ => cases read

/-- An issue that is converted from a plain document is plain. -/
theorem issue {value : Value} (plain : value.IsPlain) {issue : Issue}
    (read : Marvin.issue value = .ok issue) : issue.IsPlain := by
  cases plain with
  | @object members each =>
    obtain ⟨place, placeRead, read⟩ := Runs.bind_eq_ok.1 read
    obtain ⟨position, positionRead, read⟩ := Runs.bind_eq_ok.1 read
    obtain ⟨start, startRead, read⟩ := Runs.bind_eq_ok.1 read
    obtain ⟨stop, stopRead, same⟩ := Runs.bind_eq_ok.1 read
    cases same
    have inPlace := (memberOrNull each "location").membersOr placeRead
    have inPosition := (memberOrNull inPlace "position").membersOr positionRead
    exact {
      code := (memberOrNull each _).textOrEmpty
      title := (memberOrNull each _).textOrEmpty
      file := (memberOrNull inPlace _).textOrEmpty
      start := (memberOrNull inPosition _).location startRead
      stop := fun _ same => Option.some.inj same ▸ (memberOrNull inPosition _).location stopRead }
  | _ => cases read

end Value.IsPlain

namespace Marvin

/-- An object among the items of a plain value is plain: only lists have items that are objects. -/
theorem isPlain_of_items? {value : Value} (plain : value.IsPlain) {items : List Value}
    (found : items? value = some items) {members : List (MemberKey × Value)}
    (inside : Value.object members ∈ items) : (Value.object members).IsPlain := by
  cases plain with
  | list each =>
    cases found
    exact each _ inside
  | text string =>
    cases found
    obtain ⟨letter, -, same⟩ := List.mem_map.1 inside
    cases same
  | bytes data =>
    cases found
    obtain ⟨byte, -, same⟩ := List.mem_map.1 inside
    cases same
  | object each =>
    cases found
    obtain ⟨⟨key, value⟩, -, same⟩ := List.mem_map.1 inside
    cases key <;> cases same
  | extension code data =>
    cases found
    simp at inside
  | _ => cases found

/-- The issues that are converted from a plain document are plain. -/
theorem isPlain_of_issues {members : List (MemberKey × Value)}
    (plain : (Value.object members).IsPlain) {issues : List Issue}
    (read : Marvin.issues members = .ok issues) : ∀ issue ∈ issues, issue.IsPlain := by
  have each : ∀ member ∈ members, member.2.IsPlain := by
    cases plain with
    | object each => exact each
  have listed : ((Value.memberOrNull members "issues").orElse (.list [])).IsPlain := by
    rw [Value.orElse]
    split
    · exact .list (by simp)
    · exact .memberOrNull each _
  intro issue member
  rw [Marvin.issues] at read
  split at read
  · rename_i items found
    obtain ⟨item, inside, converted⟩ := (Runs.mem_of_mapM read).1 member
    cases item with
    | object members => exact (isPlain_of_items? listed found inside).issue converted
    | _ => cases converted
  · cases read

end Marvin

/-! ## Printed results -/

/-- What is printed of a result is read back: of every result whose texts are strings and whose
numbers are short, so also of every result that is converted from such a document. -/
theorem printed_results_read_back (tree : Tree) (codeDir : Path) :
    (∀ issues : List Issue, (∀ issue ∈ issues, issue.IsPlain) →
      (∀ issue ∈ issues, issue.Normalizes tree codeDir) → IsReadBack tree codeDir issues) ∧
    (∀ (members : List (MemberKey × Value)) (issues : List Issue),
      (Value.object members).IsPlain → Marvin.issues members = .ok issues →
        (∀ issue ∈ issues, issue.Normalizes tree codeDir) → IsReadBack tree codeDir issues) := by
  constructor
  · intro issues plain normalized
    exact isReadBack_of_isPlain plain normalized
  · intro members issues plain converted normalized
    exact isReadBack_of_isPlain (Marvin.isPlain_of_issues plain converted) normalized

namespace Marvin

/-- A line that is a numeral. -/
def smallStart : Value := .ofMembers [("line", .text "3")]

/-- A place whose file has quotes in its name. -/
def smallPlace : Value :=
  .ofMembers [("path", .text "\"a\".go"), ("position", .ofMembers [("begin", smallStart)])]

/-- The members of a document with one issue. -/
def smallDocument : List (MemberKey × Value) :=
  [(.text "issues", .list [.ofMembers [("issue_code", .text "GO-1"), ("location", smallPlace)]])]

/-- The document is plain. -/
theorem isPlain_smallDocument : (Value.object smallDocument).IsPlain := by
  have start : smallStart.IsPlain := .ofMembers (List.forall_mem_singleton.2 (.text "3"))
  have position : (Value.ofMembers [("begin", smallStart)]).IsPlain :=
    .ofMembers (List.forall_mem_singleton.2 start)
  have place : smallPlace.IsPlain :=
    .ofMembers (List.forall_mem_cons.2 ⟨.text _, List.forall_mem_singleton.2 position⟩)
  have issue : (Value.ofMembers [("issue_code", .text "GO-1"), ("location", smallPlace)]).IsPlain :=
    .ofMembers (List.forall_mem_cons.2 ⟨.text "GO-1", List.forall_mem_singleton.2 place⟩)
  exact .object (List.forall_mem_singleton.2 (.list (List.forall_mem_singleton.2 issue)))

/-- The issue of the document. -/
def smallIssue : Issue :=
  { code := "GO-1", position := { file := "\"a\".go", start := { line := 3 }, stop := some {} } }

end Marvin

/-- An issue without an end, whose title is a character past the first plane. -/
def titledIssue : Issue := { code := "", title := "😀" }

/-- The issue is plain. -/
theorem isPlain_titledIssue : titledIssue.IsPlain where
  code := ⟨"", rfl⟩
  title := ⟨"😀", rfl⟩
  file := ⟨"", rfl⟩
  start := ⟨Json.isShort_of_lt_ten (by decide), Json.isShort_of_lt_ten (by decide)⟩
  stop := by simp [titledIssue]

/-- The root of the file tree. -/
def rootPath : Path := .ofNames []

/-- What is printed of an issue without an end, and of one that is converted, is read back. -/
theorem printed_results_read_back_small :
    IsReadBack {} rootPath [titledIssue] ∧
      Marvin.issues Marvin.smallDocument = .ok [Marvin.smallIssue] ∧
        IsReadBack {} rootPath [Marvin.smallIssue] := by
  have unlinked : Tree.Unlinked {} := Tree.unlinked_of_nodes (by simp)
  have resolves := Tree.resolveReported_eq_settleDown unlinked rootPath
  have titled : titledIssue.Normalizes {} rootPath := ⟨some rootPath, (resolves "").trans (by decide)⟩
  have small : Marvin.smallIssue.Normalizes {} rootPath :=
    ⟨none, (resolves "\"a\".go").trans (by decide)⟩
  have converted : Marvin.issues Marvin.smallDocument = .ok [Marvin.smallIssue] := by
    rfl
  obtain ⟨ofResults, ofDocuments⟩ := printed_results_read_back {} rootPath
  exact ⟨ofResults _ (by simpa using isPlain_titledIssue) (by simpa using titled), converted,
    ofDocuments _ _ Marvin.isPlain_smallDocument converted (by simpa using small)⟩

end LintBench
