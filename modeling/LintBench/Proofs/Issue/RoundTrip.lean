import LintBench.Issue.Result
import LintBench.Proofs.Document.Encoding
import LintBench.Proofs.Runs

/-!
# Results that are read back

A result that is written as a document gives the same issues when it is read again,
in the same order. What counts as missing where it is read is what the default of
its part is, so nothing is lost by the defaults. Only the resolved paths are looked
up anew.
-/

namespace LintBench

open Json (IsShort ReadsBack)

/-! ## Documents of issues -/

/-- The member of an object that was made from members. -/
theorem Value.memberOrNull_ofMembers (members : List (String × Value)) (key : String) :
    memberOrNull (members.map fun (name, value) => (MemberKey.text (.ofString name), value)) key =
      (members.lookup key).getD .null := by
  have same (name : String) : decide (MemberKey.text (.ofString name) = .text (.ofString key)) =
      (key == name) := by
    by_cases here : key = name
    · subst here
      simp
    · have apart : MemberKey.text (.ofString name) ≠ .text (.ofString key) :=
        fun equal => here (LooseText.ofString_injective (MemberKey.text.inj equal)).symm
      rw [decide_eq_false apart, beq_false_of_ne here]
  rw [memberOrNull, member?]
  congr 1
  induction members with
  | nil => rfl
  | cons member rest ih =>
    obtain ⟨name, value⟩ := member
    simp only [List.map_cons, List.find?_cons, List.lookup_cons, same]
    cases key == name with
    | true => rfl
    | false => exact ih

/-- An issue as it is reported: without the resolved path of its file. -/
def Issue.unresolved (issue : Issue) : Issue :=
  { issue with position := { issue.position with resolved := "" } }

/-- A whole number is read as itself, also where zero counts as missing. -/
theorem Value.integerOrZero_integer (number : Int) : (integer number).integerOrZero = .ok number := by
  rw [integerOrZero]
  split
  · rename_i missing
    rw [isMissing, beq_iff_eq] at missing
    rw [missing]
  · rfl

/-- A text is read as itself, also where an empty one counts as missing. -/
theorem Value.textOrEmpty_text (value : LooseText) : (text value).textOrEmpty = value := by
  rw [textOrEmpty]
  split
  · rename_i missing
    rw [isMissing, LooseText.isEmpty, List.isEmpty_iff] at missing
    obtain ⟨letters⟩ := value
    rw [show letters = [] from missing]
  · rfl

/-- A location is read back from its document. -/
theorem Location.ofValue_toValue (location : Location) :
    Location.ofValue location.toValue = .ok location := by
  rw [toValue, Value.ofMembers, ofValue, ofMembers, Value.memberOrNull_ofMembers,
    Value.memberOrNull_ofMembers]
  change (do
    let line ← (Value.integer location.line).integerOrZero
    let column ← (Value.integer location.column).integerOrZero
    return ({ line, column } : Location)) = _
  rw [Value.integerOrZero_integer, Value.integerOrZero_integer]
  rfl

/-- Read the end of a position, if there is one. -/
def Position.readStop : Value → Except NumberFault (Option Location)
  | .null => .ok none
  | value => (Location.ofValue value).map some

/-- A position is its start and its end, read in this order, and its file. -/
theorem Position.ofValue_object (members : List (MemberKey × Value)) :
    ofValue (.object members) = (do
      let start ← Location.ofValue ((Value.memberOrNull members "start").orElse (.object []))
      let stop ← readStop (Value.memberOrNull members "end")
      return { file := (Value.memberOrNull members "file").textOrEmpty, start, stop }) := by
  rw [ofValue]
  refine bind_congr fun start => ?_
  cases Value.memberOrNull members "end" <;> rfl

/-- A position is read back from its document, but for the resolved path. -/
theorem Position.ofValue_toValue (position : Position) :
    Position.ofValue position.toValue = .ok { position with resolved := "" } := by
  rw [toValue, Value.ofMembers, ofValue_object, Value.memberOrNull_ofMembers,
    Value.memberOrNull_ofMembers, Value.memberOrNull_ofMembers]
  change (do
    let start ← Location.ofValue position.start.toValue
    let stop ← readStop _
    return ({ file := (Value.text position.file).textOrEmpty, start, stop } : Position)) = _
  rw [Location.ofValue_toValue, Value.textOrEmpty_text]
  cases position.stop with
  | none => rfl
  | some stop =>
    change (do
      let stop ← (Location.ofValue stop.toValue).map some
      return ({ file := position.file, start := position.start, stop } : Position)) = _
    rw [Location.ofValue_toValue]
    rfl

/-- What becomes of an object with a code is settled by its position. -/
theorem Issue.ofValue_of_code {members : List (MemberKey × Value)} {code : LooseText}
    (coded : Value.memberOrNull members "code" = .text code) :
    ofValue (.object members) =
      match Position.ofValue ((Value.memberOrNull members "position").orElse (.object [])) with
      | .ok position =>
        .ok { code, title := (Value.memberOrNull members "title").textOrEmpty, position }
      | .error .infinite => .error .infiniteNumber
      | .error _ => .error (.invalidPosition (.object members)) := by
  rw [ofValue]
  split
  · rename_i found
    rw [coded] at found
    cases found
    rfl
  · rename_i uncoded
    exact absurd coded (uncoded code)

/-- An issue is read back from its document, but for the resolved path. -/
theorem Issue.ofValue_toValue (issue : Issue) : Issue.ofValue issue.toValue = .ok issue.unresolved := by
  let members : List (String × Value) :=
    [("code", .text issue.code), ("title", .text issue.title), ("position", issue.position.toValue)]
  have titled : (members.lookup "title").getD .null = .text issue.title := rfl
  have placed : (members.lookup "position").getD .null = issue.position.toValue := rfl
  have position : Position.ofValue ((issue.position.toValue).orElse (.object [])) =
      .ok { issue.position with resolved := "" } := Position.ofValue_toValue issue.position
  rw [toValue, Value.ofMembers, ofValue_of_code (Value.memberOrNull_ofMembers members "code"),
    Value.memberOrNull_ofMembers, Value.memberOrNull_ofMembers, titled, placed, position,
    Value.textOrEmpty_text]
  rfl

/-- The issues of a result are read back from its document in their order. -/
theorem issuesOfValue_resultOfIssues (issues : List Issue) :
    issuesOfValue (resultOfIssues issues) = .ok (issues.map Issue.unresolved) := by
  have items : (issues.map Issue.toValue).mapM Issue.ofValue =
      .ok (issues.map Issue.unresolved) := by
    induction issues with
    | nil => rfl
    | cons issue rest ih =>
      rw [List.map_cons, List.mapM_cons, Issue.ofValue_toValue, ih]
      rfl
  rw [resultOfIssues, Value.ofMembers, issuesOfValue, Value.memberOrNull_ofMembers]
  cases issues with
  | nil => rfl
  | cons issue rest => exact items

/-! ## Written issues -/

/-- Whether the numbers of a location are short enough to be read. -/
structure Location.IsShort (location : Location) : Prop where
  /-- The line is. -/
  line : Json.IsShort location.line
  /-- The column is. -/
  column : Json.IsShort location.column

/-- Whether a text is a string: no half of a surrogate pair stands in it. -/
def LooseText.IsString (text : LooseText) : Prop := ∃ string : String, text = .ofString string

/-- Whether the texts of an issue are strings and its numbers are short enough to be read. -/
structure Issue.IsPlain (issue : Issue) : Prop where
  /-- The code is a string. -/
  code : issue.code.IsString
  /-- The title is a string. -/
  title : issue.title.IsString
  /-- The file is a string. -/
  file : issue.position.file.IsString
  /-- The start is short. -/
  start : issue.position.start.IsShort
  /-- The end is short, if there is one. -/
  stop : ∀ stop, issue.position.stop = some stop → stop.IsShort

/-- A string is read back. -/
theorem LooseText.IsString.readsBack {text : LooseText} (isString : text.IsString) {depth : Nat} :
    ReadsBack depth (.text text) := by
  obtain ⟨string, rfl⟩ := isString
  exact .text string

/-- Members by different keys are read back together if each is. -/
theorem readsBack_ofMembers {depth : Nat} {members : List (String × Value)}
    (distinct : (members.map Prod.fst).Nodup)
    (each : ∀ member ∈ members, ReadsBack depth member.2) :
    ReadsBack (depth + 1) (.ofMembers members) := by
  have keys : (members.map fun (key, value) => (MemberKey.text (.ofString key), value)).map
      Prod.fst = (members.map Prod.fst).map fun key => MemberKey.text (.ofString key) := by
    rw [List.map_map, List.map_map]
    rfl
  have apart : Function.Injective fun key => MemberKey.text (.ofString key) :=
    fun _ _ same => LooseText.ofString_injective (MemberKey.text.inj same)
  refine .object ?_ (keys ▸ distinct.map apart) ?_
  · intro member inside
    obtain ⟨⟨key, value⟩, -, rfl⟩ := List.mem_map.1 inside
    exact ⟨key, rfl⟩
  · intro member inside
    obtain ⟨original, given, rfl⟩ := List.mem_map.1 inside
    exact each original given

/-- A short location is read back. -/
theorem Location.IsShort.readsBack {location : Location} (short : location.IsShort) {depth : Nat} :
    ReadsBack (depth + 1) location.toValue :=
  readsBack_ofMembers (by simp)
    (List.forall_mem_cons.2 ⟨.integer short.line, List.forall_mem_singleton.2 (.integer short.column)⟩)

/-- The position of a plain issue is read back. -/
theorem Issue.IsPlain.readsBack_position {issue : Issue} (plain : issue.IsPlain) {depth : Nat} :
    ReadsBack (depth + 2) issue.position.toValue := by
  refine readsBack_ofMembers (by simp) (List.forall_mem_cons.2 ⟨plain.file.readsBack,
    List.forall_mem_cons.2 ⟨plain.start.readsBack, List.forall_mem_singleton.2 ?_⟩⟩)
  cases stop : issue.position.stop with
  | none => exact .null
  | some location => exact (plain.stop location stop).readsBack

/-- A plain issue is read back. -/
theorem Issue.IsPlain.readsBack {issue : Issue} (plain : issue.IsPlain) {depth : Nat} :
    ReadsBack (depth + 3) issue.toValue :=
  readsBack_ofMembers (by simp) (List.forall_mem_cons.2 ⟨plain.code.readsBack,
    List.forall_mem_cons.2 ⟨plain.title.readsBack,
      List.forall_mem_singleton.2 plain.readsBack_position⟩⟩)

/-- A result of plain issues is read back. -/
theorem readsBack_resultOfIssues {issues : List Issue} (plain : ∀ issue ∈ issues, issue.IsPlain)
    {depth : Nat} : ReadsBack (depth + 5) (resultOfIssues issues) := by
  refine readsBack_ofMembers (List.nodup_singleton _) (List.forall_mem_singleton.2 (.list ?_))
  intro value member
  obtain ⟨issue, inside, rfl⟩ := List.mem_map.1 member
  exact (plain issue inside).readsBack

/-! ## Reading results -/

section Reading

variable (tree : Tree) (codeDir : Path)

/-- What is written of a result. -/
def printedResult (issues : List Issue) : String := Json.write (resultOfIssues issues) ++ "\n"

/-- A written result is read as its issues; only their paths are resolved anew. -/
theorem readResultText_printedResult {issues : List Issue}
    (plain : ∀ issue ∈ issues, issue.IsPlain) :
    readResultText tree codeDir (.ofString (printedResult issues)) =
      ((issues.map Issue.unresolved).mapM (Issue.resolveFile tree codeDir)).mapError .file := by
  have back : ReadsBack Json.deepest (resultOfIssues issues) := readsBack_resultOfIssues plain
  rw [readResultText, printedResult, Json.read_write back]
  change (do
    let issues ← (issuesOfValue (resultOfIssues issues)).mapError ReadFault.result
    (issues.mapM (Issue.resolveFile tree codeDir)).mapError ReadFault.file) = _
  rw [issuesOfValue_resultOfIssues]
  rfl

/-- The bytes of a written result are read as its text is. -/
theorem readResultBytes_printedResult {issues : List Issue}
    (plain : ∀ issue ∈ issues, issue.IsPlain) :
    readResultBytes tree codeDir (Text.encodeUtf8 (printedResult issues)) =
      readResultText tree codeDir (.ofString (printedResult issues)) := by
  have back : ReadsBack Json.deepest (resultOfIssues issues) := readsBack_resultOfIssues plain
  rw [readResultBytes, readResultText, printedResult, Json.read_write back, Json.readBytes_write back]
  rfl

/-- Whether the file of an issue is normalized without a fault, be it there or not. -/
def Issue.Normalizes (issue : Issue) : Prop :=
  ∃ resolved, tree.resolveReported codeDir issue.position.file = .ok resolved

variable {tree codeDir}

/-- Resolving changes no more than the resolved paths. -/
theorem exists_mapM_resolveFile {issues : List Issue}
    (normalized : ∀ issue ∈ issues, issue.Normalizes tree codeDir) :
    ∃ read, (issues.map Issue.unresolved).mapM (Issue.resolveFile tree codeDir) = .ok read ∧
      read.map Issue.unresolved = issues.map Issue.unresolved := by
  induction issues with
  | nil => exact ⟨[], rfl, rfl⟩
  | cons issue rest ih =>
    obtain ⟨⟨resolved, found⟩, others⟩ := List.forall_mem_cons.1 normalized
    obtain ⟨read, ran, same⟩ := ih others
    let place : Position :=
      { issue.position with resolved := (resolved.map Path.toString).getD "" }
    have first : Issue.resolveFile tree codeDir issue.unresolved =
        .ok { issue with position := place } := by
      rw [Issue.resolveFile, Issue.unresolved, found]
      rfl
    refine ⟨{ issue with position := place } :: read, ?_, ?_⟩
    · rw [List.map_cons, List.mapM_cons, first, ran]
      rfl
    · rw [List.map_cons, List.map_cons, same]
      rfl

variable (tree codeDir) in
/-- Whether what is written of a result is read as the same issues in the same order, as a text and
in bytes. The resolved paths are not compared: they are what the tree makes of the files. -/
def IsReadBack (issues : List Issue) : Prop :=
  ∃ read, readResultText tree codeDir (.ofString (printedResult issues)) = .ok read ∧
    readResultBytes tree codeDir (Text.encodeUtf8 (printedResult issues)) = .ok read ∧
      read.map Issue.unresolved = issues.map Issue.unresolved

/-- A result of plain issues is read back where their files are normalized. -/
theorem isReadBack_of_isPlain {issues : List Issue} (plain : ∀ issue ∈ issues, issue.IsPlain)
    (normalized : ∀ issue ∈ issues, issue.Normalizes tree codeDir) :
    IsReadBack tree codeDir issues := by
  obtain ⟨read, resolved, same⟩ := exists_mapM_resolveFile normalized
  have text := readResultText_printedResult tree codeDir plain
  rw [resolved] at text
  have bytes := readResultBytes_printedResult tree codeDir plain
  exact ⟨read, text, bytes.trans text, same⟩

end Reading

end LintBench
