import LintBench.Proofs.Reconciliation.Passes

/-!
# What a reconciliation finds

The outcome of a reconciliation without its passes and marks: which paths have
failures listed, which issues at a path are unexpected, and which expectations of
a file no issue has met. Each is said of the issues and the files alone.
-/

namespace LintBench

/-- The paths for which failures are listed: those of the issues and then those of the files, each
once, as far as they are not excluded. -/
def diffPaths (files : Keyed FixtureFile) (excluded : List String) (issues : List Issue) :
    List String :=
  ((issues.map (·.position.resolved) ++ Keyed.keys files).filter
    fun path => !isExcluded excluded path).eraseDups

/-- The failures of one path. -/
def diffAt (files : Keyed FixtureFile) (included : List String) (issues : List Issue)
    (path : String) : Failures :=
  { unexpected := (issuesAt path issues).filter (isUnexpected files included)
    notRaised :=
      match Keyed.get? files path with
      | none => []
      | some file =>
        Reconciliation.missingIssues path ((issuesAt path issues).foldl FixtureFile.note file) }

/-- Listing what passes a test, item by item, is filtering. -/
theorem flatMap_singleton_if {α : Type} (test : α → Bool) (items : List α) :
    items.flatMap (fun item => if test item then [item] else []) = items.filter test := by
  induction items with
  | nil => rfl
  | cons item rest ih => cases passes : test item <;> simp [passes, ih]

/-- Promotion leaves the paths. -/
theorem keys_promoteFiles (files : Keyed FixtureFile) (codes : List LooseText) :
    Keyed.keys (promoteFiles files codes) = Keyed.keys files :=
  Keyed.keys_map_value (fun _ (file : FixtureFile) => file.promote codes) files

/-- Promotion leaves the expectations of a file. -/
theorem FixtureFile.expectations_promote (file : FixtureFile) (codes : List LooseText) :
    (file.promote codes).expectations = file.expectations := by
  unfold promote
  cases file.mode with
  | all =>
    simp only
    split <;> rfl
  | only listed => rfl
  | ignoring listed => rfl

/-- Promotion leaves a file fresh. -/
theorem FixtureFile.Fresh.promote {file : FixtureFile} (fresh : file.Fresh)
    (codes : List LooseText) : (file.promote codes).Fresh := by
  have same := file.expectations_promote codes
  exact ⟨same ▸ fresh.ordered, same ▸ fresh.fresh⟩

section Outcome

variable {files : Keyed FixtureFile} (excluded included : List String) (issues : List Issue)

/-- The state before the first pass is well-formed if the files are. -/
theorem Reconciliation.wellFormed_start (distinct : (Keyed.keys files).Nodup)
    (wellFormed : ∀ entry ∈ files, entry.2.WellFormed) :
    ({ files := promoteFiles files (issueCodes issues) } : Reconciliation).WellFormed := by
  refine ⟨?_, List.nodup_nil, fun entry member => ?_, rfl⟩
  · rw [keys_promoteFiles]
    exact distinct
  · obtain ⟨⟨path, file⟩, listed, rfl⟩ := List.mem_map.1 member
    have own := wellFormed _ listed
    have same := file.expectations_promote (issueCodes issues)
    exact ⟨same ▸ own.ordered, same ▸ own.distinct⟩

/-- The state after the first pass is well-formed if the files are. -/
theorem Reconciliation.wellFormed_noted (distinct : (Keyed.keys files).Nodup)
    (wellFormed : ∀ entry ∈ files, entry.2.WellFormed) :
    (issues.foldl (checkIssue excluded included)
      { files := promoteFiles files (issueCodes issues) }).WellFormed :=
  (wellFormed_start issues distinct wellFormed).foldl_checkIssue issues

/-- The outcome of both passes, as runs of findings. -/
theorem reconcile_eq (distinct : (Keyed.keys files).Nodup)
    (wellFormed : ∀ entry ∈ files, entry.2.WellFormed) :
    reconcile files excluded included issues =
      let fixtures := promoteFiles files (issueCodes issues)
      let noted := notedFiles excluded issues fixtures
      { files := noted.map fun (path, file) =>
          (path, if path ∈ Keyed.keys (countedFiles excluded noted) then file.settle else file)
        failures := recordAll Prod.fst (fun _ => [])
          (fun entry => Reconciliation.missingIssues entry.1 entry.2)
          (countedFiles excluded noted)
          (recordAll (·.position.resolved)
            (fun issue => if isUnexpected fixtures included issue then [issue] else [])
            (fun _ => []) (countedIssues excluded issues) [])
        passed := ((countedIssues excluded issues).all fun issue =>
            !isUnexpected fixtures included issue) &&
          (countedFiles excluded noted).all fun entry =>
            (Reconciliation.missingIssues entry.1 entry.2).isEmpty } := by
  have start := Reconciliation.wellFormed_start issues distinct wellFormed
  have noted := Reconciliation.wellFormed_noted excluded included issues distinct wellFormed
  refine (Reconciliation.foldl_checkFile noted noted.files fun entry member =>
    (Keyed.get?_eq_some_iff noted.files entry.1 entry.2).2 member).trans ?_
  simp only [Reconciliation.foldl_checkIssue start, Bool.true_and]

/-- The paths with failures, in order. -/
theorem keys_failures_reconcile (distinct : (Keyed.keys files).Nodup)
    (wellFormed : ∀ entry ∈ files, entry.2.WellFormed) :
    Keyed.keys (reconcile files excluded included issues).failures =
      diffPaths files excluded issues := by
  have issuePaths : (countedIssues excluded issues).map (·.position.resolved) =
      (issues.map (·.position.resolved)).filter fun path => !isExcluded excluded path := by
    simp only [countedIssues, List.filter_map]
    rfl
  have filePaths : ∀ files : Keyed FixtureFile, (countedFiles excluded files).map Prod.fst =
      (Keyed.keys files).filter fun path => !isExcluded excluded path :=
    keys_countedFiles excluded
  have noPaths : (Keyed.keys ([] : Keyed Failures)).Nodup := List.nodup_nil
  rw [reconcile_eq excluded included issues distinct wellFormed]
  simp only
  rw [keys_recordAll _ _ _ _ (nodup_keys_recordAll _ _ _ _ noPaths),
    keys_recordAll _ _ _ _ noPaths, issuePaths, filePaths, keys_notedFiles,
    keys_promoteFiles, diffPaths, List.filter_append, List.eraseDups_append]
  simp [Keyed.keys, List.removeAll]

/-- Failures are listed for a path that is not excluded if an issue was reported for it or a file
lies there. -/
theorem mem_diffPaths_iff {path : String} :
    path ∈ diffPaths files excluded issues ↔
      isExcluded excluded path = false ∧
        (path ∈ Keyed.keys files ∨ ∃ issue ∈ issues, issue.position.resolved = path) := by
  simp only [diffPaths, List.mem_eraseDups, List.mem_filter, List.mem_append, List.mem_map,
    Bool.not_eq_true']
  rw [and_comm, or_comm]

/-- The file of a path after the first pass, if the path is not excluded. -/
theorem filter_path_notedFiles (distinct : (Keyed.keys files).Nodup) {path : String}
    (counted : isExcluded excluded path = false) :
    (countedFiles excluded (notedFiles excluded issues files)).filter
        (fun entry => entry.1 = path) =
      ((Keyed.get? files path).map fun file =>
        (path, (issuesAt path issues).foldl FixtureFile.note file)).toList := by
  have distinctNoted : (Keyed.keys (notedFiles excluded issues files)).Nodup := by
    rw [keys_notedFiles]
    exact distinct
  have here := Keyed.filter_key distinctNoted path
  rw [notedFiles, Keyed.get?_map_value fun path file =>
    (issuesAt path (countedIssues excluded issues)).foldl FixtureFile.note file,
    ← notedFiles, Option.map_map, issuesAt_countedIssues counted] at here
  refine Eq.trans ?_ here
  rw [countedFiles, List.filter_filter]
  refine List.filter_congr fun entry _ => ?_
  by_cases own : entry.1 = path
  · simp [own, counted]
  · simp [own]

/-- What is listed under a path with failures. -/
theorem get?_failures_reconcile (distinct : (Keyed.keys files).Nodup)
    (wellFormed : ∀ entry ∈ files, entry.2.WellFormed) {path : String}
    (listed : path ∈ diffPaths files excluded issues) :
    Keyed.get? (reconcile files excluded included issues).failures path =
      some (diffAt (promoteFiles files (issueCodes issues)) included issues path) := by
  obtain ⟨counted, some⟩ := (mem_diffPaths_iff excluded issues).1 listed
  have distinctFixtures : (Keyed.keys (promoteFiles files (issueCodes issues))).Nodup := by
    rw [keys_promoteFiles]
    exact distinct
  rw [← keys_promoteFiles files (issueCodes issues), Keyed.mem_keys_iff] at some
  have issuesHere : (countedIssues excluded issues).filter
      (fun issue => issue.position.resolved = path) = issuesAt path issues :=
    issuesAt_countedIssues counted issues
  have filesHere := filter_path_notedFiles excluded issues distinctFixtures counted
  rw [reconcile_eq excluded included issues distinct wellFormed]
  simp only [get?_recordAll, issuesHere, filesHere, flatMap_singleton_if, Keyed.get?_nil, diffAt]
  cases found : Keyed.get? (promoteFiles files (issueCodes issues)) path with
  | none =>
    have reported : issuesAt path issues ≠ [] := by
      obtain ⟨issue, member, own⟩ := some.resolve_left (by simp [found])
      exact List.ne_nil_of_mem (List.mem_filter.2 ⟨member, decide_eq_true own⟩)
    simp [reported, Failures.extend]
  | some file =>
    by_cases quiet : issuesAt path issues = []
    · simp [quiet, Failures.extend]
    · simp [quiet, Failures.extend]

/-- A reconciliation ends in a well-formed state. -/
theorem wellFormed_reconcile (distinct : (Keyed.keys files).Nodup)
    (wellFormed : ∀ entry ∈ files, entry.2.WellFormed) :
    (reconcile files excluded included issues).WellFormed := by
  have noted := Reconciliation.wellFormed_noted excluded included issues distinct wellFormed
  exact noted.foldl_checkFile noted.files fun entry member =>
    (Keyed.get?_eq_some_iff noted.files entry.1 entry.2).2 member

/-- All failures that a reconciliation lists. -/
theorem failures_reconcile (distinct : (Keyed.keys files).Nodup)
    (wellFormed : ∀ entry ∈ files, entry.2.WellFormed) :
    (reconcile files excluded included issues).failures =
      (diffPaths files excluded issues).map fun path =>
        (path, diffAt (promoteFiles files (issueCodes issues)) included issues path) := by
  have keys := keys_failures_reconcile excluded included issues distinct wellFormed
  rw [← keys]
  refine Keyed.eq_map_keys (wellFormed_reconcile excluded included issues distinct
    wellFormed).failures fun path listed => ?_
  rw [keys] at listed
  exact get?_failures_reconcile excluded included issues distinct wellFormed listed

end Outcome

/-! ## The reference -/

/-- The failures of one path as the fixtures and the issues at the path give them, without marks:
the issues that are unexpected, and what the issues leave awaited of the codes in the verdict. -/
def referenceAt (files : Keyed FixtureFile) (included : List String) (issues : List Issue)
    (path : String) : Failures :=
  { unexpected := (issuesAt path issues).filter (isUnexpected files included)
    notRaised :=
      match Keyed.get? files path with
      | none => []
      | some file =>
        ((file.awaited (issuesAt path issues)).filter
          fun (_, code, _) => file.mode.admits (.ofString code)).map
            fun (line, code, detail) => Reconciliation.notRaised path line code detail }

/-- For fresh files what is listed under a path does not need marks. -/
theorem diffAt_eq_referenceAt {files : Keyed FixtureFile}
    (fresh : ∀ path file, Keyed.get? files path = some file → file.Fresh)
    (included : List String) (issues : List Issue) (path : String) :
    diffAt files included issues path = referenceAt files included issues path := by
  unfold diffAt referenceAt
  cases found : Keyed.get? files path with
  | none => rfl
  | some file =>
    simp only
    rw [Reconciliation.missingIssues_foldl_note (fresh path file found)]

/-- The files of a reconciliation are fresh if they were read. -/
theorem fresh_of_read {files : Keyed FixtureFile}
    (read : ∀ entry ∈ files, ∃ name content markers,
      FixtureFile.ofSource name content markers = .ok entry.2) :
    ∀ entry ∈ files, entry.2.Fresh := by
  intro entry member
  obtain ⟨name, content, markers, own⟩ := read entry member
  exact FixtureFile.fresh_of_ofSource own

section Fresh

variable {files : Keyed FixtureFile} (excluded included : List String) (issues : List Issue)

/-- The files stay fresh as they are promoted. -/
theorem fresh_promoteFiles (distinct : (Keyed.keys files).Nodup)
    (fresh : ∀ entry ∈ files, entry.2.Fresh) {path : String} {file : FixtureFile}
    (found : Keyed.get? (promoteFiles files (issueCodes issues)) path = some file) :
    file.Fresh := by
  rw [promoteFiles, Keyed.get?_map_value fun _ (file : FixtureFile) =>
    file.promote (issueCodes issues)] at found
  obtain ⟨own, present, rfl⟩ := Option.map_eq_some_iff.1 found
  exact (fresh _ ((Keyed.get?_eq_some_iff distinct path own).1 present)).promote _

/-- For fresh files a reconciliation lists under every path what the reference says. -/
theorem failures_reconcile_of_fresh (distinct : (Keyed.keys files).Nodup)
    (fresh : ∀ entry ∈ files, entry.2.Fresh) :
    (reconcile files excluded included issues).failures =
      (diffPaths files excluded issues).map fun path =>
        (path, referenceAt (promoteFiles files (issueCodes issues)) included issues path) := by
  rw [failures_reconcile excluded included issues distinct fun entry member =>
    (fresh entry member).toWellFormed]
  refine List.map_congr_left fun path _ => ?_
  rw [diffAt_eq_referenceAt fun _ _ => fresh_promoteFiles issues distinct fresh]

/-- A reconciliation passes exactly if it lists no failure. -/
theorem passed_reconcile_iff (distinct : (Keyed.keys files).Nodup)
    (fresh : ∀ entry ∈ files, entry.2.Fresh) :
    (reconcile files excluded included issues).passed = true ↔
      ∀ entry ∈ (reconcile files excluded included issues).failures,
        entry.2.unexpected = [] ∧ entry.2.notRaised = [] := by
  rw [(wellFormed_reconcile excluded included issues distinct fun entry member =>
    (fresh entry member).toWellFormed).tallied, List.all_eq_true]
  simp only [Failures.passed, Bool.and_eq_true, List.isEmpty_iff]

end Fresh

/-- A fixture with two details of one code and one code without details. -/
def twoLines : FixtureFile :=
  { name := "a"
    expectations :=
      [(1, { details := [("A-1", [{ column := 10 }, { column := 12 }])],
             raised := [("A-1", false)] }),
       (2, { details := [("B-1", [])], raised := [("B-1", false)] })] }

end LintBench
