import LintBench.Proofs.Issue.Converting
import LintBench.Proofs.Run.LeftResult

/-!
# Converting results by the program

The program converts the result in the file that the environment names. It ends with
success and the converted result, or with a failure and an error line. A document that
is misshapen ends it without a status: the fault of such a document is not told.
-/

namespace LintBench

open Text (Bytes)

/-- Of the faults of a conversion exactly those are not told. -/
theorem MarvinFault.isTold_eq_false_iff (fault : MarvinFault) :
    (RunFault.result (.conversion fault)).isTold = false ↔ fault.Untold := by
  constructor
  · intro quiet
    cases fault with
    | noItems => exact .noItems
    | number fault =>
      cases fault with
      | infinite => exact .infinite
      | wrongType => exact .wrongType
      | notNumeric => cases quiet
    | _ => cases quiet
  · rintro (_ | _ | _) <;> rfl

namespace CommandLine

/-- What is known when the program is to convert a document: the arguments ask for it, the
environment names a file, and the document in the file is an object. -/
structure Converts (tools : Tools) (arguments : List String) (world : World)
    (members : List (MemberKey × Value)) : Prop where
  /-- The arguments ask for a conversion. -/
  asked : Request.read tools.readOptions arguments = .ok .convert
  /-- The environment names a file with the document. -/
  named : ∃ text content, Keyed.get? world.environment Run.inputFileVariable = some text ∧
    text ≠ "" ∧ world.tree.content (world.here / .ofString text) = .ok content ∧
    Marvin.decode tools.unpack (.ofString text) content = .ok (.object members)

variable {tools : Tools} {arguments : List String} {world : World} {members : List (MemberKey × Value)}

/-- A conversion goes by the document in the named file. -/
theorem outcome_convertResult (converts : Converts tools arguments world members) :
    (convertResult tools.unpack).outcome world =
      match Marvin.issues members with
      | .ok issues =>
        (.ok 0, { world with held := world.held ++ Text.encodeUtf8 (printedResult issues) })
      | .error fault => (.error (.result (.conversion fault)), world) := by
  obtain ⟨text, content, named, some, read, decoded⟩ := converts.named
  have converted : Marvin.ofContent tools.unpack (.ofString text) content =
      (Marvin.issues members).mapError .conversion := by
    rw [Marvin.ofContent, decoded]
    rfl
  have here : (Run.fromHere (.ofString text)).outcome world =
      (.ok (world.here / .ofString text), world) := rfl
  rw [convertResult, Run.outcome_bind_of_ok (Run.outcome_get world), named, Option.getD_some]
  simp only [some, if_false]
  rw [Run.outcome_bind_of_ok here, Run.outcome_bind_of_ok (Run.outcome_look_of_ok read),
    Run.outcome_bind, Run.outcome_ofExcept, converted]
  cases Marvin.issues members <;> rfl

end CommandLine

open CommandLine in
/-- A document is converted or has a fault that is told, unless it is misshapen. The program ends
with success and the converted result, or it tells the fault and ends with a failure; a misshapen
document ends it without a status. -/
theorem conversion_told_unless_misshapen (members : List (MemberKey × Value))
    (tools : Tools) (machine : Machine) (arguments : List String) (world : World) :
    (FailsUntold (Marvin.issues members) ↔ Marvin.Misshapen members) ∧
    (Converts tools arguments world members →
      (¬ Marvin.Misshapen members →
        (∃ issues, Marvin.issues members = .ok issues ∧
          (program tools machine arguments).outcome world =
            (.ok { status := 0 },
              { world with held := world.held ++ Text.encodeUtf8 (printedResult issues) })) ∨
        ∃ fault, Marvin.issues members = .error fault ∧ ¬ fault.Untold ∧
          (program tools machine arguments).outcome world =
            (.ok { status := 1, told := some (.result (.conversion fault)) },
              { world with
                errors := world.errors ++ Text.encodeUtf8
                  (tools.errorLine (RunFault.result (.conversion fault)).summary) })) ∧
      (Marvin.Misshapen members →
        ∃ fault, Marvin.issues members = .error fault ∧ fault.Untold ∧
          (program tools machine arguments).outcome world =
            (.error (.result (.conversion fault)), world))) := by
  refine ⟨Marvin.failsUntold_issues_iff members,
    fun converts => ⟨fun shaped => ?_, fun misshapen => ?_⟩⟩
  · rw [← Marvin.failsUntold_issues_iff] at shaped
    have ran := outcome_convertResult converts
    cases converted : Marvin.issues members with
    | ok issues =>
      rw [converted] at ran
      exact .inl ⟨issues, rfl, outcome_program_of_ok machine converts.asked ran⟩
    | error fault =>
      rw [converted] at ran
      rw [converted, failsUntold_error_iff] at shaped
      have told : (RunFault.result (.conversion fault)).isTold = true := by
        rwa [← MarvinFault.isTold_eq_false_iff, Bool.not_eq_false] at shaped
      refine .inr ⟨fault, rfl, shaped, ?_⟩
      rw [outcome_program_of_error machine converts.asked ran, if_pos told]
  · obtain ⟨fault, failed, untold⟩ := (Marvin.failsUntold_issues_iff members).2 misshapen
    have ran := outcome_convertResult converts
    rw [failed] at ran
    have quiet := (MarvinFault.isTold_eq_false_iff fault).2 untold
    refine ⟨fault, failed, untold, ?_⟩
    rw [outcome_program_of_error machine converts.asked ran, if_neg (by simp [quiet])]

namespace ConvertedResult

/-- A world with a document in the file that the environment names. -/
def world (members : List (MemberKey × Value)) : World :=
  { LeftResult.world (Text.encodeUtf8 (Json.write (.object members) ++ "\n")) [] with
    environment := [("INPUT_FILE", "r")] }

/-- A document with one member, the issues. -/
def document (issues : Value) : List (MemberKey × Value) :=
  [(.text (.ofString "issues"), issues)]

/-- The issues of the document are its member. -/
theorem memberOrNull_document (issues : Value) :
    Value.memberOrNull (document issues) "issues" = issues := by
  rw [document, Value.memberOrNull, Value.member?]
  simp

/-- A document that is read back is the one to be converted. -/
theorem converts {issues : Value} (back : Json.ReadsBack (Json.deepest - 1) issues) :
    CommandLine.Converts LeftResult.tools ["process-marvin-result"] (world (document issues))
      (document issues) where
  asked := by decide +kernel
  named := by
    have whole : Json.ReadsBack Json.deepest (.ofMembers [("issues", issues)]) :=
      readsBack_ofMembers (List.nodup_singleton _) (List.forall_mem_singleton.2 back)
    have path : (world (document issues)).here / .ofString "r" = .ofNames ["r"] := by
      show ({ anchor := .root } : Path) / .ofString "r" = _
      decide
    have read : (world (document issues)).tree.content
        ((world (document issues)).here / .ofString "r") =
          .ok (Text.encodeUtf8 (Json.write (.object (document issues)) ++ "\n")) := by
      rw [path]
      exact (Tree.content_eq_ok_iff_stands (LeftResult.houses _ []).unlinked (by decide)).2
        (LeftResult.stands_result _ [])
    have decoded : Marvin.decode LeftResult.tools.unpack (.ofString "r")
        (Text.encodeUtf8 (Json.write (.object (document issues)) ++ "\n")) =
          .ok (.object (document issues)) := by
      have plain : ¬ (Path.ofString "r").ending = Marvin.packedEnding := by decide
      rw [Marvin.decode, if_neg plain]
      exact congrArg (Except.mapError _) (Json.readBytes_write whole)
    exact ⟨"r", _, rfl, by decide, read, decoded⟩

/-- An issue that is no object. -/
def numbered : List (MemberKey × Value) := document (.list [.integer 1])

/-- The issue is not converted. -/
theorem issues_numbered : Marvin.issues numbered = .error (.invalidIssue (.integer 1)) := by
  rw [Marvin.issues, numbered, memberOrNull_document]
  rfl

/-- The document is not misshapen. -/
theorem shaped_numbered : ¬ Marvin.Misshapen numbered := by
  rw [← Marvin.failsUntold_issues_iff, issues_numbered, failsUntold_error_iff]
  rintro ⟨⟩

end ConvertedResult

open ConvertedResult in
/-- A document with an issue that is no object ends the program with a failure, and its fault is
told. -/
theorem conversion_told_unless_misshapen_number :
    (CommandLine.program LeftResult.tools LeftResult.machine ["process-marvin-result"]).outcome
        (world numbered) =
      (.ok { status := 1, told := some (.result (.conversion (.invalidIssue (.integer 1)))) },
        { world numbered with
          errors := Text.encodeUtf8 (LeftResult.tools.errorLine
            "Invalid issue in Marvin result: 1") }) := by
  have short : Json.IsShort 1 := Json.isShort_of_lt_ten (by decide)
  have ready := converts (.list (List.forall_mem_singleton.2 (.integer short)))
  obtain ⟨issues, converted, -⟩ | ⟨fault, failed, -, ended⟩ :=
    ((conversion_told_unless_misshapen numbered LeftResult.tools LeftResult.machine
      ["process-marvin-result"] (world numbered)).2 ready).1 shaped_numbered
  · rw [issues_numbered] at converted
    cases converted
  · rw [issues_numbered] at failed
    cases failed
    exact ended

open ConvertedResult in
/-- A document with a number in place of its issues is not converted, and its fault is not told: the
program ends without a status. -/
theorem number_for_issues_is_not_told :
    Marvin.issues (document (.integer 1)) = .error .noItems ∧
      (CommandLine.program LeftResult.tools LeftResult.machine ["process-marvin-result"]).outcome
          (world (document (.integer 1))) =
        (.error (.result (.conversion .noItems)), world (document (.integer 1))) := by
  have short : Json.IsShort 1 := Json.isShort_of_lt_ten (by decide)
  have ready := converts (.integer short)
  have failed : Marvin.issues (document (.integer 1)) = .error .noItems := by
    rw [Marvin.issues, memberOrNull_document]
    rfl
  have ran := CommandLine.outcome_convertResult ready
  rw [failed] at ran
  exact ⟨failed, CommandLine.outcome_program_of_error LeftResult.machine ready.asked ran⟩

end LintBench
