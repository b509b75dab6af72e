import LintBench.Proofs.Reconciliation.Passes

/-!
# The verdict as it is counted

A reconciliation keeps its verdict beside the failures: each place that lists a failure
also spoils the verdict. The two agree after every step, from whatever files it starts.
-/

namespace LintBench.Reconciliation

/-- Whether the verdict of a state is that of its failures, which are listed once for each path. -/
structure Tallied (state : Reconciliation) : Prop where
  /-- Every path has one list of failures. -/
  distinct : (Keyed.keys state.failures).Nodup
  /-- The state has passed as long as no failure is listed. -/
  verdict : state.passed = state.failures.all fun entry => entry.2.passed

/-- The verdict stays that of the failures as failures are recorded, whatever becomes of the
files. -/
theorem Tallied.record {state : Reconciliation} (tallied : state.Tallied) (path : String)
    (unexpected notRaised : List Issue) (files : Keyed FixtureFile) :
    { state.record path unexpected notRaised with files }.Tallied where
  distinct := Keyed.nodup_keys_update tallied.distinct _ _
  verdict := by
    simp only [Reconciliation.record]
    rw [all_passed_update, tallied.verdict]

variable (excluded included : List String)

/-- Looking an issue up changes nothing, or it records at the path of the issue what is unexpected
of it. -/
theorem checkIssue_cases {state : Reconciliation}
    (distinct : (Keyed.keys state.failures).Nodup) (issue : Issue) :
    checkIssue excluded included state issue = state ∨
      ∃ unexpected files, checkIssue excluded included state issue =
        { state.record issue.position.resolved unexpected [] with files } := by
  have visited := visit_eq_record state issue.position.resolved
  have added := addUnexpected_visit distinct issue.position.resolved issue
  cases out : isExcluded excluded issue.position.resolved with
  | true => exact .inl (checkIssue_of_excluded state out)
  | false =>
    have reported : ∀ (counts : Bool) (files : Keyed FixtureFile), ∃ unexpected,
        (if counts then
            addUnexpected { state.visit issue.position.resolved with files }
              issue.position.resolved issue
          else { state.visit issue.position.resolved with files }) =
          { state.record issue.position.resolved unexpected [] with files } := by
      intro counts files
      cases counts with
      | true => exact ⟨[issue], congrArg (fun after : Reconciliation => { after with files }) added⟩
      | false => exact ⟨[], congrArg (fun after : Reconciliation => { after with files }) visited⟩
    refine .inr ?_
    unfold checkIssue
    simp only [out, Bool.false_eq_true, if_false]
    cases Keyed.get? (state.visit issue.position.resolved).files issue.position.resolved with
    | none =>
      simp only
      split
      · exact ⟨[], _, visited⟩
      · exact ⟨[issue], _, added⟩
    | some file =>
      simp only
      cases expectationAt file issue with
      | none =>
        obtain ⟨unexpected, same⟩ := reported (shouldReport (some file) issue.code) state.files
        exact ⟨unexpected, _, same⟩
      | some entry =>
        obtain ⟨line, expectation⟩ := entry
        simp only
        split
        · obtain ⟨unexpected, same⟩ := reported false _
          exact ⟨unexpected, _, same⟩
        · obtain ⟨unexpected, same⟩ := reported (shouldReport (some file) issue.code) _
          exact ⟨unexpected, _, same⟩

/-- Checking a file changes nothing, or it records at the path of the file what is missing. -/
theorem checkFile_cases {state : Reconciliation}
    (distinct : (Keyed.keys state.failures).Nodup) (entry : String × FixtureFile) :
    checkFile excluded state entry = state ∨
      ∃ notRaised files, checkFile excluded state entry =
        { state.record entry.1 [] notRaised with files } := by
  obtain ⟨path, file⟩ := entry
  cases out : isExcluded excluded path with
  | true => exact .inl (checkFile_of_excluded state file out)
  | false =>
    refine .inr ⟨missingIssues path file, (checkFile excluded state (path, file)).files, ?_⟩
    unfold checkFile
    simp only [out, Bool.false_eq_true, if_false, addNotRaised_visit distinct]

variable {excluded included}

/-- The verdict stays that of the failures as an issue is looked up. -/
theorem Tallied.checkIssue {state : Reconciliation} (tallied : state.Tallied) (issue : Issue) :
    (checkIssue excluded included state issue).Tallied := by
  obtain same | ⟨unexpected, files, same⟩ :=
    checkIssue_cases excluded included tallied.distinct issue
  · rw [same]
    exact tallied
  · rw [same]
    exact tallied.record _ unexpected [] files

/-- The verdict stays that of the failures as a file is checked. -/
theorem Tallied.checkFile {state : Reconciliation} (tallied : state.Tallied)
    (entry : String × FixtureFile) : (checkFile excluded state entry).Tallied := by
  obtain same | ⟨notRaised, files, same⟩ := checkFile_cases excluded tallied.distinct entry
  · rw [same]
    exact tallied
  · rw [same]
    exact tallied.record _ [] notRaised files

/-- The verdict is that of the failures after each of the two passes. -/
theorem Tallied.foldl {α : Type} {step : Reconciliation → α → Reconciliation}
    (keeps : ∀ state item, state.Tallied → (step state item).Tallied) {state : Reconciliation}
    (tallied : state.Tallied) (items : List α) : (items.foldl step state).Tallied := by
  induction items generalizing state with
  | nil => exact tallied
  | cons item rest ih => exact ih (keeps state item tallied)

end LintBench.Reconciliation

namespace LintBench

end LintBench
