import LintBench.Proofs.Fixture.Noting

/-!
# The two passes of a reconciliation

What one step of either pass does to the state, and from it what a whole pass does.
Both passes record findings under a path; the first one also notes issues in the
files, and the second one settles them. What is unexpected is read off the files
as they were before the first pass.
-/

namespace LintBench

/-- Failures with more of them at the end. -/
def Failures.extend (failures : Failures) (unexpected notRaised : List Issue) : Failures :=
  { unexpected := failures.unexpected ++ unexpected, notRaised := failures.notRaised ++ notRaised }

/-- Extending by nothing changes nothing. -/
@[simp] theorem Failures.extend_nil (failures : Failures) : failures.extend [] [] = failures := by
  simp [extend]

/-- Extending twice is extending by both. -/
theorem Failures.extend_extend (failures : Failures)
    (unexpected notRaised laterUnexpected laterNotRaised : List Issue) :
    (failures.extend unexpected notRaised).extend laterUnexpected laterNotRaised =
      failures.extend (unexpected ++ laterUnexpected) (notRaised ++ laterNotRaised) := by
  simp [extend]

/-! ## Runs of findings -/

section Findings

variable {α : Type} (pathOf : α → String) (unexpected notRaised : α → List Issue)

/-- Failures by path after a run of findings, each of which adds to the failures of its path. -/
def recordAll (items : List α) (failures : Keyed Failures) : Keyed Failures :=
  items.foldl
    (fun failures item => Keyed.update failures (pathOf item) fun present =>
      (present.getD {}).extend (unexpected item) (notRaised item))
    failures

/-- A run of findings lists no path twice. -/
theorem nodup_keys_recordAll (items : List α) {failures : Keyed Failures}
    (distinct : (Keyed.keys failures).Nodup) :
    (Keyed.keys (recordAll pathOf unexpected notRaised items failures)).Nodup :=
  Keyed.nodup_keys_foldl_update pathOf (fun item (present : Option Failures) =>
    (present.getD {}).extend (unexpected item) (notRaised item)) items distinct

/-- After a run of findings the new paths stand in the order in which they first came. -/
theorem keys_recordAll (items : List α) {failures : Keyed Failures}
    (distinct : (Keyed.keys failures).Nodup) :
    Keyed.keys (recordAll pathOf unexpected notRaised items failures) =
      Keyed.keys failures ++
        ((items.map pathOf).removeAll (Keyed.keys failures)).eraseDups :=
  Keyed.keys_foldl_update pathOf (fun item (present : Option Failures) =>
    (present.getD {}).extend (unexpected item) (notRaised item)) items distinct

/-- After a run of findings a path shows what the findings at that path have added. -/
theorem get?_recordAll (items : List α) (failures : Keyed Failures) (path : String) :
    Keyed.get? (recordAll pathOf unexpected notRaised items failures) path =
      let here := items.filter fun item => pathOf item = path
      if here = [] then Keyed.get? failures path
      else some (((Keyed.get? failures path).getD {}).extend
        (here.flatMap unexpected) (here.flatMap notRaised)) := by
  have added : ∀ (items : List α) (present : Option Failures),
      items.foldl
          (fun present item => some ((present.getD {}).extend (unexpected item) (notRaised item)))
          present =
        if items = [] then present
        else some ((present.getD {}).extend
          (items.flatMap unexpected) (items.flatMap notRaised)) := by
    intro items
    induction items with
    | nil => exact fun _ => rfl
    | cons item rest ih =>
      intro present
      rw [List.foldl_cons, ih]
      by_cases last : rest = []
      · simp [last]
      · simp [last, Failures.extend_extend]
  rw [recordAll, Keyed.get?_foldl_update pathOf fun item (present : Option Failures) =>
    (present.getD {}).extend (unexpected item) (notRaised item)]
  exact added _ _

end Findings

/-! ## What the passes look at -/

/-- The issues that are not reported for an excluded path. -/
def countedIssues (excluded : List String) (issues : List Issue) : List Issue :=
  issues.filter fun issue => !isExcluded excluded issue.position.resolved

/-- The entries of files that are not excluded. -/
def countedFiles (excluded : List String) (files : Keyed FixtureFile) : Keyed FixtureFile :=
  files.filter fun entry => !isExcluded excluded entry.1

/-- The paths of the files that are not excluded. -/
theorem keys_countedFiles (excluded : List String) (files : Keyed FixtureFile) :
    Keyed.keys (countedFiles excluded files) =
      (Keyed.keys files).filter fun path => !isExcluded excluded path := by
  simp only [Keyed.keys, countedFiles, List.filter_map]
  rfl

/-- The issues of a run that were reported for a path. -/
def issuesAt (path : String) (issues : List Issue) : List Issue :=
  issues.filter fun issue => issue.position.resolved = path

/-- At a path that is not excluded every issue counts. -/
theorem issuesAt_countedIssues {excluded : List String} {path : String}
    (counted : isExcluded excluded path = false) (issues : List Issue) :
    issuesAt path (countedIssues excluded issues) = issuesAt path issues := by
  unfold issuesAt countedIssues
  rw [List.filter_filter]
  refine List.filter_congr fun issue _ => ?_
  by_cases here : issue.position.resolved = path
  · simp [here, counted]
  · simp [here]

/-- An issue of an excluded path does not count. -/
theorem countedIssues_cons_of_excluded {excluded : List String} {issue : Issue}
    (out : isExcluded excluded issue.position.resolved = true) (rest : List Issue) :
    countedIssues excluded (issue :: rest) = countedIssues excluded rest := by
  simp [countedIssues, out]

/-- An issue of any other path counts. -/
theorem countedIssues_cons_of_counted {excluded : List String} {issue : Issue}
    (counted : isExcluded excluded issue.position.resolved = false) (rest : List Issue) :
    countedIssues excluded (issue :: rest) = issue :: countedIssues excluded rest := by
  simp [countedIssues, counted]

/-- A file of an excluded path does not count. -/
theorem countedFiles_cons_of_excluded {excluded : List String} {path : String}
    (out : isExcluded excluded path = true) (file : FixtureFile) (rest : Keyed FixtureFile) :
    countedFiles excluded ((path, file) :: rest) = countedFiles excluded rest := by
  simp [countedFiles, out]

/-- A file of any other path counts. -/
theorem countedFiles_cons_of_counted {excluded : List String} {path : String}
    (counted : isExcluded excluded path = false) (file : FixtureFile) (rest : Keyed FixtureFile) :
    countedFiles excluded ((path, file) :: rest) = (path, file) :: countedFiles excluded rest := by
  simp [countedFiles, counted]

/-- Files that have noted the issues at their paths, as far as these count. -/
def notedFiles (excluded : List String) (issues : List Issue) (files : Keyed FixtureFile) :
    Keyed FixtureFile :=
  files.map fun (path, file) =>
    (path, (issuesAt path (countedIssues excluded issues)).foldl FixtureFile.note file)

/-- Files keep their paths as they note issues. -/
theorem keys_notedFiles (excluded : List String) (issues : List Issue)
    (files : Keyed FixtureFile) :
    Keyed.keys (notedFiles excluded issues files) = Keyed.keys files :=
  Keyed.keys_map_value (fun path file =>
    (issuesAt path (countedIssues excluded issues)).foldl FixtureFile.note file) files

/-- Files note a run of issues one after another. -/
theorem notedFiles_cons {excluded : List String} {issue : Issue}
    (counted : isExcluded excluded issue.position.resolved = false) (rest : List Issue)
    (files : Keyed FixtureFile) :
    notedFiles excluded (issue :: rest) files =
      notedFiles excluded rest
        (Keyed.adjust files issue.position.resolved (·.note issue)) := by
  rw [notedFiles, notedFiles, Keyed.adjust_eq_map_value, List.map_map,
    countedIssues_cons_of_counted counted]
  refine List.map_congr_left fun entry _ => ?_
  obtain ⟨path, file⟩ := entry
  by_cases same : path = issue.position.resolved
  · simp [issuesAt, same]
  · simp [issuesAt, same, Ne.symm same]

/-- Whether an issue is unexpected: its file does not await it, or it lies outside the fixtures and
in a file that is included. -/
def isUnexpected (files : Keyed FixtureFile) (included : List String) (issue : Issue) : Bool :=
  match Keyed.get? files issue.position.resolved with
  | none => included.isEmpty || included.contains issue.position.resolved
  | some file => file.mode.admits issue.code && !file.awaits issue

namespace Reconciliation

/-- Add to the failures of a path. -/
def record (state : Reconciliation) (path : String) (unexpected notRaised : List Issue) :
    Reconciliation :=
  { state with
    failures := Keyed.update state.failures path fun present =>
      (present.getD {}).extend unexpected notRaised
    passed := state.passed && unexpected.isEmpty && notRaised.isEmpty }

/-- One step of either pass: the file of a path changes, and its failures are added to. -/
def advance (state : Reconciliation) (path : String) (change : FixtureFile → FixtureFile)
    (unexpected notRaised : List Issue) : Reconciliation :=
  { state.record path unexpected notRaised with files := Keyed.adjust state.files path change }

/-- No path is listed twice, every file is well-formed, and the verdict is that of the failures. -/
structure WellFormed (state : Reconciliation) : Prop where
  /-- Every file has one path. -/
  files : (Keyed.keys state.files).Nodup
  /-- Every path has one list of failures. -/
  failures : (Keyed.keys state.failures).Nodup
  /-- The files are well-formed. -/
  wellFormed : ∀ entry ∈ state.files, entry.2.WellFormed
  /-- The state has passed as long as no failure is listed. -/
  tallied : state.passed = state.failures.all fun entry => entry.2.passed

/-! ## Single steps -/

/-- Giving a path its place is recording nothing. -/
theorem visit_eq_record (state : Reconciliation) (path : String) :
    state.visit path = state.record path [] [] := by
  simp [visit, record, Keyed.setDefault]

/-- An unexpected issue of a path that was visited is recorded. -/
theorem addUnexpected_visit {state : Reconciliation} (distinct : (Keyed.keys state.failures).Nodup)
    (path : String) (issue : Issue) :
    (state.visit path).addUnexpected path issue = state.record path [issue] [] := by
  simp only [visit, addUnexpected, Keyed.adjust_setDefault distinct, record]
  simp [Failures.extend]

/-- Issues that were not raised are recorded for a path that was visited. -/
theorem addNotRaised_visit {state : Reconciliation} (distinct : (Keyed.keys state.failures).Nodup)
    (path : String) (issues : List Issue) :
    (state.visit path).addNotRaised path issues = state.record path [] issues := by
  simp only [visit, addNotRaised, Keyed.adjust_setDefault distinct, record]
  simp [Failures.extend]

variable {excluded included : List String}

/-- An issue of an excluded path is passed over. -/
theorem checkIssue_of_excluded (state : Reconciliation) {issue : Issue}
    (out : isExcluded excluded issue.position.resolved = true) :
    checkIssue excluded included state issue = state := by
  simp [checkIssue, out]

/-- What looking one issue up does: its file notes it, and it is recorded if it is unexpected. -/
theorem checkIssue_eq {state : Reconciliation} (wellFormed : state.WellFormed) {issue : Issue}
    (counted : isExcluded excluded issue.position.resolved = false) :
    checkIssue excluded included state issue =
      state.advance issue.position.resolved (·.note issue)
        (if isUnexpected state.files included issue then [issue] else []) [] := by
  have visited := visit_eq_record state issue.position.resolved
  have added := addUnexpected_visit wellFormed.failures issue.position.resolved issue
  rw [visited] at added
  unfold checkIssue isUnexpected advance
  simp only [counted, Bool.false_eq_true, if_false]
  change (match Keyed.get? state.files issue.position.resolved with
    | none => _
    | some file => _) = _
  cases found : Keyed.get? state.files issue.position.resolved with
  | none =>
    rw [Keyed.adjust_of_fixed wellFormed.files (by simp [found]), visited, added]
    cases included.isEmpty <;> cases included.contains issue.position.resolved <;> rfl
  | some file =>
    have listed := (Keyed.get?_eq_some_iff wellFormed.files _ file).1 found
    have ownFile : file.WellFormed := wellFormed.wellFormed _ listed
    cases lookedUp : expectationAt file issue with
    | none =>
      obtain ⟨unawaited, same⟩ := FixtureFile.of_expectationAt_none lookedUp
      have fixed : ∀ other, Keyed.get? state.files issue.position.resolved = some other →
          other.note issue = other := fun other present => by
        rw [found, Option.some.injEq] at present
        exact present ▸ same
      rw [Keyed.adjust_of_fixed wellFormed.files fixed]
      simp only [lookedUp, unawaited, shouldReport, visited, added]
      cases file.mode.admits issue.code <;> rfl
    | some entry =>
      obtain ⟨line, expectation⟩ := entry
      obtain ⟨awaited, same⟩ := FixtureFile.of_expectationAt_some ownFile lookedUp
      have noted := Keyed.set_eq_adjust wellFormed.files found (·.note issue)
      rw [← noted]
      simp only [lookedUp, shouldReport, same, awaited, visited]
      have reported : ∀ files : Keyed FixtureFile,
          addUnexpected { state.record issue.position.resolved [] [] with files }
            issue.position.resolved issue =
            { state.record issue.position.resolved [issue] [] with files } := fun files =>
        congrArg (fun after : Reconciliation => { after with files }) added
      cases expectation.expects issue <;> cases file.mode.admits issue.code <;>
        first
        | rfl
        | exact reported _

/-- A file of an excluded path is passed over. -/
theorem checkFile_of_excluded (state : Reconciliation) {path : String} (file : FixtureFile)
    (out : isExcluded excluded path = true) :
    checkFile excluded state (path, file) = state := by
  simp [checkFile, out]

/-- What checking one file does: it is settled, and what is missing in it is recorded. -/
theorem checkFile_eq {state : Reconciliation} (wellFormed : state.WellFormed) {path : String}
    {file : FixtureFile} (present : Keyed.get? state.files path = some file)
    (counted : isExcluded excluded path = false) :
    checkFile excluded state (path, file) =
      state.advance path .settle [] (missingIssues path file) := by
  unfold checkFile
  simp only [counted, Bool.false_eq_true, if_false, addNotRaised_visit wellFormed.failures]
  refine congrArg (fun files => { state.record path [] (missingIssues path file) with files }) ?_
  exact Keyed.set_eq_adjust wellFormed.files present .settle

/-! ## Whole passes -/

/-- After a finding all failures pass if they did before and the finding adds nothing. -/
theorem all_passed_update (failures : Keyed Failures) (path : String)
    (unexpected notRaised : List Issue) :
    (Keyed.update failures path fun present =>
        (present.getD {}).extend unexpected notRaised).all (fun entry => entry.2.passed) =
      (failures.all (fun entry => entry.2.passed) && unexpected.isEmpty && notRaised.isEmpty) := by
  have extended : ∀ own : Failures, (own.extend unexpected notRaised).passed =
      (own.passed && unexpected.isEmpty && notRaised.isEmpty) := fun own => by
    have both : ∀ first second : List Issue,
        (first ++ second).isEmpty = (first.isEmpty && second.isEmpty) := fun first _ => by
      cases first <;> rfl
    simp only [Failures.passed, Failures.extend, both]
    ac_rfl
  induction failures with
  | nil => simp [Keyed.update, Failures.extend, Failures.passed]
  | cons head rest ih =>
    obtain ⟨own, present⟩ := head
    by_cases same : own = path
    · simp only [Keyed.update, same, if_true, List.all_cons, Option.getD_some, extended]
      ac_rfl
    · simp only [Keyed.update, same, if_false, List.all_cons, ih]
      ac_rfl

/-- A state stays well-formed in a step that leaves files well-formed. -/
theorem WellFormed.advance {state : Reconciliation} (wellFormed : state.WellFormed)
    (path : String) {change : FixtureFile → FixtureFile}
    (keeps : ∀ file : FixtureFile, file.WellFormed → (change file).WellFormed)
    (unexpected notRaised : List Issue) :
    (state.advance path change unexpected notRaised).WellFormed where
  files := by
    rw [Reconciliation.advance, Keyed.keys_adjust]
    exact wellFormed.files
  failures := Keyed.nodup_keys_update wellFormed.failures _ _
  wellFormed := by
    intro entry member
    obtain ⟨⟨own, file⟩, listed, rfl⟩ := List.mem_map.1 member
    have ownFile := wellFormed.wellFormed _ listed
    simp only
    split
    · exact keeps file ownFile
    · exact ownFile
  tallied := by
    simp only [Reconciliation.advance, record]
    rw [all_passed_update, wellFormed.tallied]

/-- A state stays well-formed as an issue is looked up. -/
theorem WellFormed.checkIssue {state : Reconciliation} (wellFormed : state.WellFormed)
    (issue : Issue) : (checkIssue excluded included state issue).WellFormed := by
  cases counted : isExcluded excluded issue.position.resolved with
  | true =>
    rw [checkIssue_of_excluded state counted]
    exact wellFormed
  | false =>
    rw [checkIssue_eq wellFormed counted]
    exact wellFormed.advance _ (fun _ ownFile => ownFile.note issue) _ _

/-- A state stays well-formed in the first pass. -/
theorem WellFormed.foldl_checkIssue {state : Reconciliation} (wellFormed : state.WellFormed)
    (issues : List Issue) :
    (issues.foldl (Reconciliation.checkIssue excluded included) state).WellFormed := by
  induction issues generalizing state with
  | nil => exact wellFormed
  | cons issue rest ih => exact ih (wellFormed.checkIssue issue)

/-- Whether an issue is unexpected does not depend on what was noted before. -/
theorem isUnexpected_adjust_note {state : Reconciliation} (wellFormed : state.WellFormed)
    (path : String) (issue : Issue) :
    isUnexpected (Keyed.adjust state.files path (·.note issue)) included =
      isUnexpected state.files included := by
  funext other
  unfold isUnexpected
  rw [Keyed.get?_adjust]
  cases found : Keyed.get? state.files other.position.resolved with
  | none => rfl
  | some file =>
    have listed := (Keyed.get?_eq_some_iff wellFormed.files _ file).1 found
    have ownFile : file.WellFormed := wellFormed.wellFormed _ listed
    simp only [Option.map_some]
    split
    · rw [FixtureFile.awaits_note ownFile]
      rfl
    · rfl

/-- What the first pass does: every file notes the issues at its path, and the unexpected issues
are recorded. -/
theorem foldl_checkIssue {state : Reconciliation} (wellFormed : state.WellFormed)
    (issues : List Issue) :
    issues.foldl (checkIssue excluded included) state =
      { files := notedFiles excluded issues state.files
        failures := recordAll (·.position.resolved)
          (fun issue => if isUnexpected state.files included issue then [issue] else [])
          (fun _ => []) (countedIssues excluded issues) state.failures
        passed := state.passed && (countedIssues excluded issues).all fun issue =>
          !isUnexpected state.files included issue } := by
  induction issues generalizing state with
  | nil => simp [notedFiles, countedIssues, issuesAt, recordAll]
  | cons issue rest ih =>
    rw [List.foldl_cons]
    cases counted : isExcluded excluded issue.position.resolved with
    | true =>
      rw [checkIssue_of_excluded state counted, ih wellFormed, notedFiles, notedFiles,
        countedIssues_cons_of_excluded counted]
    | false =>
      have next := wellFormed.advance issue.position.resolved
        (fun file ownFile => FixtureFile.WellFormed.note ownFile issue)
        (if isUnexpected state.files included issue then [issue] else []) []
      have unchanged : isUnexpected
            (Keyed.adjust state.files issue.position.resolved (·.note issue)) included =
          isUnexpected state.files included :=
        isUnexpected_adjust_note wellFormed issue.position.resolved issue
      rw [checkIssue_eq wellFormed counted, ih next, notedFiles_cons counted,
        countedIssues_cons_of_counted counted]
      simp only [advance, record, recordAll, unchanged, List.foldl_cons, List.all_cons]
      cases isUnexpected state.files included issue <;> simp

/-- The files of a run are still there after a step at another path. -/
theorem present_advance {state : Reconciliation} {rest : Keyed FixtureFile} {path : String}
    (other : path ∉ Keyed.keys rest)
    (present : ∀ entry ∈ rest, Keyed.get? state.files entry.1 = some entry.2)
    (change : FixtureFile → FixtureFile) (unexpected notRaised : List Issue) :
    ∀ entry ∈ rest,
      Keyed.get? (state.advance path change unexpected notRaised).files entry.1 = some entry.2 := by
  intro entry member
  have apart : entry.1 ≠ path := fun same => other (same ▸ List.mem_map_of_mem member)
  rw [advance, Keyed.get?_adjust, present entry member]
  simp [apart]

/-- A state stays well-formed in the second pass. -/
theorem WellFormed.foldl_checkFile {state : Reconciliation} (wellFormed : state.WellFormed)
    {entries : Keyed FixtureFile} (distinct : (Keyed.keys entries).Nodup)
    (present : ∀ entry ∈ entries, Keyed.get? state.files entry.1 = some entry.2) :
    (entries.foldl (Reconciliation.checkFile excluded) state).WellFormed := by
  induction entries generalizing state with
  | nil => exact wellFormed
  | cons entry rest ih =>
    obtain ⟨path, file⟩ := entry
    obtain ⟨other, distinctRest⟩ := List.nodup_cons.1 distinct
    obtain ⟨own, presentRest⟩ := List.forall_mem_cons.1 present
    rw [List.foldl_cons]
    cases counted : isExcluded excluded path with
    | true =>
      rw [checkFile_of_excluded state file counted]
      exact ih wellFormed distinctRest presentRest
    | false =>
      rw [checkFile_eq wellFormed own counted]
      exact ih (wellFormed.advance path (fun _ ownFile => ownFile.settle) _ _) distinctRest
        (present_advance other presentRest _ _ _)

/-- Settling one file and then the files of some other paths is settling all of these. -/
theorem settle_adjust_settle (files : Keyed FixtureFile) {path : String} {rest : Keyed FixtureFile}
    (unlisted : path ∉ Keyed.keys rest) (file : FixtureFile) :
    (Keyed.adjust files path .settle).map (fun (own, present) =>
        (own, if own ∈ Keyed.keys rest then present.settle else present)) =
      files.map fun (own, present) =>
        (own, if own ∈ Keyed.keys ((path, file) :: rest) then present.settle else present) := by
  have keys : Keyed.keys ((path, file) :: rest) = path :: Keyed.keys rest := rfl
  rw [Keyed.adjust_eq_map_value, List.map_map, keys]
  refine List.map_congr_left fun entry _ => ?_
  obtain ⟨own, present⟩ := entry
  by_cases same : own = path
  · simp [same, unlisted]
  · simp [same]

/-- What the second pass does: every file is settled, and what is missing in it is recorded. -/
theorem foldl_checkFile {state : Reconciliation} (wellFormed : state.WellFormed)
    {entries : Keyed FixtureFile} (distinct : (Keyed.keys entries).Nodup)
    (present : ∀ entry ∈ entries, Keyed.get? state.files entry.1 = some entry.2) :
    entries.foldl (checkFile excluded) state =
      { files := state.files.map fun (path, file) =>
          (path, if path ∈ Keyed.keys (countedFiles excluded entries) then file.settle else file)
        failures := recordAll Prod.fst (fun _ => []) (fun entry => missingIssues entry.1 entry.2)
          (countedFiles excluded entries) state.failures
        passed := state.passed && (countedFiles excluded entries).all fun entry =>
          (missingIssues entry.1 entry.2).isEmpty } := by
  induction entries generalizing state with
  | nil => simp [countedFiles, Keyed.keys, recordAll]
  | cons entry rest ih =>
    obtain ⟨path, file⟩ := entry
    obtain ⟨other, distinctRest⟩ := List.nodup_cons.1 distinct
    obtain ⟨own, presentRest⟩ := List.forall_mem_cons.1 present
    rw [List.foldl_cons]
    cases counted : isExcluded excluded path with
    | true =>
      rw [checkFile_of_excluded state file counted, ih wellFormed distinctRest presentRest,
        countedFiles_cons_of_excluded counted]
    | false =>
      have next := wellFormed.advance path (fun _ ownFile => FixtureFile.WellFormed.settle ownFile)
        [] (missingIssues path file)
      rw [checkFile_eq wellFormed own counted,
        ih next distinctRest (present_advance other presentRest _ _ _),
        countedFiles_cons_of_counted counted]
      have unlisted : path ∉ Keyed.keys (countedFiles excluded rest) := fun member =>
        other ((List.filter_sublist.map Prod.fst).subset member)
      have files := settle_adjust_settle state.files unlisted file
      simp only [advance, record, recordAll, files, List.foldl_cons, List.all_cons]
      simp [Bool.and_assoc]

end Reconciliation

end LintBench
