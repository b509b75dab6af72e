import LintBench.Host.Tools
import LintBench.Proofs.Issue.Conversion
import LintBench.Proofs.Issue.Reading
import LintBench.Proofs.Run.Stages
import LintBench.Proofs.Suite.Housing

/-!
# Results that are no results

What the checks of a suite left may be any document. An object that is no result ends
the run with a failure and an error line in the library's own words, unless the first
of its issues that is none has an infinite line or column: that fault is not told, and
the program ends without a status.
-/

namespace LintBench

/-! ## A suite whose checks leave a given result -/

namespace LeftResult

/-- The text of a configuration: the result of the checks is in a file as it is. -/
def configText : String :=
  "[checks]\noutput_file = \"r\"\n[processor]\nskip_processing = true\n"

/-- The configuration. -/
def config : Config :=
  { root := .ofNames [], checks := { outputFile := "r" }, processor := { skipped := true }
    testChecks := true }

/-- A world with the configuration and the result, and with what was written to the second output.
-/
def world (content errors : Text.Bytes) : World :=
  { tree := { nodes := [([".scatr.toml"], .file (Text.encodeUtf8 configText)),
      (["r"], .file content), (["t"], .directory)] }
    scratch := .ofNames ["t"]
    errors }

/-- The world after the script was run. -/
def ended (content errors : Text.Bytes) : World := { world content errors with serial := 1 }

/-- A machine whose programs do nothing. -/
def idle : Interpreter := fun _ => return { status := 0 }

/-- The tools of that machine. -/
def tools : Tools := Host.tools idle

/-- What is written when the test of the checks begins. -/
def header : Text.Bytes := Text.encodeUtf8 "Testing checks\n"

section

variable (content errors : Text.Bytes)

/-- The root has the fixtures of the suite. -/
theorem houses : (world content errors).tree.Houses config [] where
  unlinked := Tree.unlinked_of_nodes (by simp [world])
  level := by decide
  named := by decide
  directory := ⟨by decide, Tree.enterable_nil _, rfl⟩

/-- The configuration stands. -/
theorem stands_config : (world content errors).tree.Stands (.ofNames [".scatr.toml"])
    (some (.file (Text.encodeUtf8 configText))) :=
  ⟨by decide, Tree.enterable_nil _, rfl⟩

/-- The result stands. -/
theorem stands_result : (world content errors).tree.Stands (.ofNames ["r"])
    (some (.file content)) :=
  ⟨by decide, Tree.enterable_nil _, rfl⟩

/-- The directory for files of a run's own stands. -/
theorem stands_scratch : (world content errors).tree.Stands (.ofNames ["t"]) (some .directory) :=
  ⟨by decide, Tree.enterable_nil _, rfl⟩

/-- The configuration is read. -/
theorem loaded : Config.load (world content errors).tree (CommandLine.configPathFor {})
    ((world content errors).here / CommandLine.configPathFor {}) = .ok config := by
  have path : (world content errors).here / CommandLine.configPathFor {} =
      .ofNames [".scatr.toml"] := by
    show ({ anchor := .root } : Path) / CommandLine.configPathFor {} = _
    decide
  have read := (Tree.content_eq_ok_iff_stands (houses content errors).unlinked (by decide)).2
    (stands_config content errors)
  have isFile := Tree.isFile_eq_true_iff.2 ⟨_, read⟩
  have resolved := Tree.resolveLenient_of_stands (houses content errors).unlinked (by decide)
    (stands_config content errors)
  have decoded : Config.ofContent (.ofNames []) (Text.encodeUtf8 configText) = .ok config := by
    decide +kernel
  rw [path, Config.load, isFile]
  simp only [Except.mapError, bind, Except.bind, if_true, read, resolved]
  exact decoded

/-- The run goes by the configuration and is not limited. -/
theorem setUp : (Run.setUp (CommandLine.configPathFor {}) [] (some "")).outcome
      (world content errors) =
    (.ok { config, included := [], given := none }, world content errors) := by
  have read : (Run.ofExcept RunFault.config (Config.load (world content errors).tree
      (CommandLine.configPathFor {}) ((world content errors).here /
        CommandLine.configPathFor {}))).outcome (world content errors) =
      (.ok config, world content errors) :=
    Run.outcome_ofExcept_eq_ok.2 ⟨loaded content errors, rfl⟩
  have asked : (!config.testChecks && !config.testAutofix) = false := rfl
  have listed : (world content errors).tree.resolveListed (.ofNames []) [] = .ok [] := rfl
  rw [Run.setUp, Run.outcome_bind_of_ok (Run.outcome_get _), Run.outcome_bind_of_ok read, asked]
  simp only [Bool.false_eq_true, if_false]
  rw [Run.outcome_bind_of_ok (Run.outcome_look_of_ok (houses content errors).codeDir_eq),
    Run.outcome_bind_of_ok (Run.outcome_look_of_ok listed)]
  rfl

/-- The script is run. -/
theorem ranScript :
    (Run.script tools.interpret config config.checks []).outcome (world content errors) =
    (.ok (), ended content errors) := by
  have file : (world content errors).scratch /
      { names := ["script-" ++ toString (world content errors).serial] } =
        .ofNames ["t", "script-0"] := by
    show Path.ofNames ["t"] / { names := ["script-" ++ toString 0] } = _
    decide
  have free : ∀ entry ∈ (world content errors).tree.nodes, ¬ ["t", "script-0"] <+: entry.1 := by
    simp [world]
  have absent : (world content errors).tree.Stands (.ofNames ["t", "script-0"]) none :=
    ⟨by decide, (stands_scratch content errors).enterable, rfl⟩
  have located : (world content errors).tree.locate false (.ofNames ["t", "script-0"]) =
      .ok ⟨["t", "script-0"], none⟩ :=
    (Tree.locate_eq_ok_iff_stands (houses content errors).unlinked (by decide)).2 ⟨rfl, absent⟩
  have stored : (world content errors).tree.store (.ofNames ["t", "script-0"])
      (Text.encodeUtf8 config.checks.body) =
        .ok ((world content errors).tree.set ["t", "script-0"] _) :=
    (Tree.store_eq_ok_iff_stands (houses content errors).unlinked (by decide)).2
      ⟨none, absent, by simp, rfl⟩
  rw [← file] at located stored
  exact Run.outcome_script_of_idle (fun _ _ => rfl) (houses content errors).codeDir_eq
    (houses content errors).resolveStrict_eq located free stored

/-- The file with the result is left. -/
theorem leave : (Run.leave tools.interpret config).outcome (world content errors) =
    (.ok (.ofNames [], content), ended content errors) := by
  have path : config.root / Path.ofString config.checks.outputFile = .ofNames ["r"] := by decide
  have read : (ended content errors).tree.content (.ofNames ["r"]) = .ok content :=
    (Tree.content_eq_ok_iff_stands (houses content errors).unlinked (by decide)).2
      (stands_result content errors)
  have coded : config.codeDir (ended content errors).tree = .ok (.ofNames []) :=
    (houses content errors).codeDir_eq
  have result : (Run.resultContent tools.interpret config).outcome (ended content errors) =
      (.ok content, ended content errors) := by
    have named : (config.checks.outputFile = "") = False := by decide
    simp only [Run.resultContent, named, if_false, path, show config.processor.skipped = true from rfl,
      if_true]
    rw [Run.outcome_look, read]
    rfl
  rw [Run.leave, Run.outcome_bind_of_ok (ranScript content errors), Run.outcome_bind_of_ok result,
    Run.outcome_bind_of_ok (Run.outcome_look_of_ok coded)]
  rfl

/-- The test of the checks is announced. -/
theorem announced : (Run.tell { style := .plain } [.header "Testing checks"]).outcome
      (world content []) = (.ok { style := .plain }, world content header) := by
  rw [Run.outcome_tell_of_plain _ rfl rfl rfl]
  rfl

/-- The run comes to the result that was left. -/
theorem leftResult : (CommandLine.leftResult tools {}).outcome (world content []) =
    (.ok (some (.ofNames [], content)), ended content header) := by
  have formed : (CommandLine.styleFor tools.console {}).outcome (world content []) =
      (.ok .plain, world content []) := rfl
  rw [CommandLine.leftResult, Run.outcome_bind_of_ok formed,
    Run.outcome_bind_of_ok (setUp content [])]
  simp only [show config.testChecks = true from rfl, if_true]
  rw [Run.outcome_bind_of_ok (announced content), Run.outcome_bind_of_ok (leave content header)]
  rfl

end

end LeftResult

/-! ## What becomes of a result that is none -/

/-- Of the faults of a result those with words are told, and an infinite number is not. -/
theorem ResultFault.isTold_of_message {fault : ResultFault} {message : String}
    (words : fault.message? = some message) : (RunFault.result (.result fault)).isTold = true := by
  cases fault with
  | infiniteNumber => cases words
  | _ => rfl

/-- A value is read as an issue or is told as what it is, unless it comes upon an infinite number.
An object whose files are normalized is read as a result or has a fault with words, unless an
infinite number keeps it from being read. Where such an object was left by checks and is no result,
the program tells its fault and fails; where an infinite number keeps it from being read, the
program ends without a status. -/
theorem malformed_result_told_unless_infinite (value : Value) (tree : Tree) (codeDir : Path)
    (members : List (MemberKey × Value)) (tools : Tools) (machine : CommandLine.Machine)
    (arguments : List String) (request : CommandLine.RunRequest) (world later : World)
    (content : Text.Bytes) :
    ((Issue.ofValue value = .error .infiniteNumber ↔ Issue.Overflows value) ∧
      (¬ Issue.Overflows value →
        (∃ issue, Issue.ofValue value = .ok issue) ∨
          Issue.ofValue value = .error (.invalidIssue value) ∨
          Issue.ofValue value = .error (.invalidPosition value))) ∧
    ((readResult tree codeDir (.object members) = .error (.result .infiniteNumber) ↔
        ResultOverflows members) ∧
      (FilesNormalize tree codeDir members → ¬ ResultOverflows members →
        (∃ issues, readResult tree codeDir (.object members) = .ok issues) ∨
          ∃ fault message, readResult tree codeDir (.object members) = .error (.result fault) ∧
            fault.message? = some message)) ∧
    (CommandLine.Request.read tools.readOptions arguments = .ok (.run request) →
      (CommandLine.leftResult tools request).outcome world =
        (.ok (some (codeDir, content)), later) →
      Json.readBytes content = .ok (.object members) →
      (ResultOverflows members →
        (CommandLine.program tools machine arguments).outcome world =
          (.error (.result (.result .infiniteNumber)), later)) ∧
        (FilesNormalize later.tree codeDir members → ¬ ResultOverflows members →
          (∃ issues, readResult later.tree codeDir (.object members) = .ok issues) ∨
            ∃ fault message, fault.message? = some message ∧
              (CommandLine.program tools machine arguments).outcome world =
                (.ok { status := 1, told := some (.result (.result fault)) },
                  { later with
                    errors := later.errors ++ Text.encodeUtf8 (tools.errorLine message) }))) := by
  refine ⟨⟨Issue.ofValue_eq_infiniteNumber_iff value, Issue.ofValue_of_not_overflows⟩,
    ⟨readResult_eq_infiniteNumber_iff tree codeDir members, readResult_of_not_overflows⟩, ?_⟩
  intro asked left decoded
  have ended {fault : ReadFault}
      (failed : readResult later.tree codeDir (.object members) = .error fault) :=
    have unread : readResultBytes later.tree codeDir content = .error fault := by
      rw [readResultBytes, decoded]
      exact failed
    CommandLine.outcome_program_of_error machine asked
      (CommandLine.outcome_runSuite_of_unread left unread)
  constructor
  · intro overflows
    exact ended ((readResult_eq_infiniteNumber_iff _ _ _).2 overflows)
  · intro normalized finite
    obtain read | ⟨fault, message, failed, words⟩ := readResult_of_not_overflows normalized finite
    · exact .inl read
    · refine .inr ⟨fault, message, words, ?_⟩
      have summary : (RunFault.result (.result fault)).summary = message := by
        rw [RunFault.summary]
        exact congrArg (Option.getD · "...") words
      rw [ended failed, if_pos (ResultFault.isTold_of_message words), summary]

namespace LeftResult

/-- The machine of the runs. -/
def machine : CommandLine.Machine := { system := "Linux", architecture := "x86_64" }

/-- The arguments ask for a run. -/
theorem asked : CommandLine.Request.read tools.readOptions ["run"] = .ok (.run {}) := by
  decide +kernel

/-- An object with an issue whose code is a number. -/
def uncoded : List (MemberKey × Value) :=
  [(.text (.ofString "issues"), .list [.ofMembers [("code", .integer 1)]])]

/-- The list has the one issue. -/
theorem member_uncoded : Value.memberOrNull uncoded "issues" =
    .list [.ofMembers [("code", .integer 1)]] := by
  rw [uncoded, Value.memberOrNull, Value.member?]
  simp

/-- The issue is not read. -/
theorem ofValue_uncoded : Issue.ofValue (.ofMembers [("code", .integer 1)]) =
    .error (.invalidIssue (.ofMembers [("code", .integer 1)])) := by
  refine Issue.ofValue_of_no_code fun members code same => ?_
  cases same
  rw [Value.memberOrNull, Value.member?]
  simp

/-- No issue of it is read, so no file of one is to be normalized. -/
theorem normalize_uncoded (tree : Tree) (codeDir : Path) : FilesNormalize tree codeDir uncoded := by
  intro items listed item member issue read
  rw [member_uncoded] at listed
  cases listed
  rw [List.mem_singleton.1 member, ofValue_uncoded] at read
  cases read

/-- It has no infinite number. -/
theorem finite_uncoded : ¬ ResultOverflows uncoded := by
  rw [← issuesOfValue_eq_infiniteNumber_iff, issuesOfValue_of_list member_uncoded, List.mapM_cons,
    ofValue_uncoded]
  intro same
  cases same

/-- The object is not read as a result. -/
theorem unread_uncoded (tree : Tree) (codeDir : Path) :
    ¬ ∃ issues, readResult tree codeDir (.object uncoded) = .ok issues := by
  rintro ⟨issues, read⟩
  rw [readResult, issuesOfValue_of_list member_uncoded, List.mapM_cons, ofValue_uncoded] at read
  cases read

/-- The object as it is written. -/
def uncodedContent : Text.Bytes := Text.encodeUtf8 (Json.write (.object uncoded) ++ "\n")

/-- The object is read as it was written. -/
theorem readBytes_uncoded : Json.readBytes uncodedContent = .ok (.object uncoded) := by
  have short : Json.IsShort 1 := Json.isShort_of_lt_ten (by decide)
  have issue : Json.ReadsBack (Json.deepest - 2) (.ofMembers [("code", .integer 1)]) :=
    readsBack_ofMembers (List.nodup_singleton _) (List.forall_mem_singleton.2 (.integer short))
  have result : Json.ReadsBack Json.deepest (.ofMembers
      [("issues", .list [.ofMembers [("code", .integer 1)]])]) :=
    readsBack_ofMembers (List.nodup_singleton _)
      (List.forall_mem_singleton.2 (.list (List.forall_mem_singleton.2 issue)))
  exact Json.readBytes_write result

end LeftResult

/-- A result with an issue without a code ends the program with a failure, and its fault is told. -/
theorem malformed_result_told_without_code :
    ∃ fault message, fault.message? = some message ∧
      (CommandLine.program LeftResult.tools LeftResult.machine ["run"]).outcome
          (LeftResult.world LeftResult.uncodedContent []) =
        (.ok { status := 1, told := some (.result (.result fault)) },
          { LeftResult.ended LeftResult.uncodedContent LeftResult.header with
            errors := LeftResult.header ++ Text.encodeUtf8 (LeftResult.tools.errorLine message) }) := by
  have settled := malformed_result_told_unless_infinite .null {} (.ofNames []) LeftResult.uncoded
    LeftResult.tools LeftResult.machine ["run"] {} (LeftResult.world LeftResult.uncodedContent [])
    (LeftResult.ended LeftResult.uncodedContent LeftResult.header) LeftResult.uncodedContent
  obtain read | told := (settled.2.2 LeftResult.asked
    (LeftResult.leftResult LeftResult.uncodedContent) LeftResult.readBytes_uncoded).2
    (LeftResult.normalize_uncoded _ _) LeftResult.finite_uncoded
  · exact absurd read (LeftResult.unread_uncoded _ _)
  · exact told

namespace LeftResult

/-- The text of an issue whose line is beyond the greatest double. -/
def infiniteIssue : String :=
  "\x7b\"code\": \"A-1\", \"position\": \x7b\"start\": \x7b\"line\": 1e400\x7d\x7d\x7d"

/-- A result with that issue. -/
def infiniteContent : Text.Bytes :=
  Text.encodeUtf8 ("\x7b\"issues\": [" ++ infiniteIssue ++ "]\x7d")

/-- Whether a document was read and has an infinite number. -/
def readsInfinite {ε α : Type} (read : Except ε Value) (use : Value → Except ResultFault α) : Bool :=
  match read with
  | .ok document => match use document with
    | .error .infiniteNumber => true
    | _ => false
  | .error _ => false

/-- A document that has an infinite number shows it. -/
theorem exists_of_readsInfinite {ε α : Type} {read : Except ε Value}
    {use : Value → Except ResultFault α} (computed : readsInfinite read use = true) :
    ∃ document, read = .ok document ∧ use document = .error .infiniteNumber := by
  unfold readsInfinite at computed
  split at computed
  · rename_i document
    refine ⟨document, rfl, ?_⟩
    split at computed
    · assumption
    · cases computed
  · cases computed

end LeftResult

/-- An infinite line is no fault that is told: the issue is not read, and a result with it ends the
program without a status. -/
theorem infinite_line_is_not_told :
    (∃ document, Json.read (.ofString LeftResult.infiniteIssue) = .ok document ∧
      Issue.ofValue document = .error .infiniteNumber) ∧
    (CommandLine.program LeftResult.tools LeftResult.machine ["run"]).outcome
        (LeftResult.world LeftResult.infiniteContent []) =
      (.error (.result (.result .infiniteNumber)),
        LeftResult.ended LeftResult.infiniteContent LeftResult.header) := by
  constructor
  · exact LeftResult.exists_of_readsInfinite (by decide +kernel)
  · obtain ⟨document, read, infinite⟩ : ∃ document,
        Json.readBytes LeftResult.infiniteContent = .ok document ∧
          issuesOfValue document = .error .infiniteNumber :=
      LeftResult.exists_of_readsInfinite (by decide +kernel)
    have unread : readResultBytes
        (LeftResult.ended LeftResult.infiniteContent LeftResult.header).tree (.ofNames [])
        LeftResult.infiniteContent = .error (.result .infiniteNumber) := by
      rw [readResultBytes, read]
      simp only [Except.mapError, bind, Except.bind, readResult, infinite]
    exact CommandLine.outcome_program_of_error LeftResult.machine LeftResult.asked
      (CommandLine.outcome_runSuite_of_unread (LeftResult.leftResult _) unread)

end LintBench
