import LintBench.Proofs.Reconciliation.Aging
import LintBench.Proofs.Reconciliation.Relevance

/-!
# Issues in another order

The order in which issues are reported does not matter. The marks that a run leaves say
which issues it has; only the place of a code among the marks tells when it first came up,
and what is missing does not show that. What is unexpected is listed as it was reported,
so it is the same up to order.
-/

namespace LintBench

/-! ## The same marks -/

namespace Expectation

/-- Two expectations with the same marks: the same details are met, and the same codes are marked,
in whatever order they came up. -/
structure SameMarks (left right : Expectation) : Prop where
  /-- The codes and their details are the same, with the marks of the details. -/
  details : left.details = right.details
  /-- The codes have the same marks. -/
  raised : ∀ code, Keyed.get? left.raised code = Keyed.get? right.raised code
  /-- Both or neither come from a comment line. -/
  fromCommentLine : left.fromCommentLine = right.fromCommentLine
  /-- Both or neither have taken in another expectation. -/
  folded : left.folded = right.folded

/-- The mark of a code after a run of issues. -/
theorem get?_raised_foldl_note (expectation : Expectation) (issues : List Issue) (code : String) :
    Keyed.get? (issues.foldl note expectation).raised code =
      if comesUp issues code then some true else Keyed.get? expectation.raised code := by
  induction issues generalizing expectation with
  | nil => rfl
  | cons issue rest ih =>
    rw [List.foldl_cons, ih, get?_raised_note]
    by_cases own : issue.code = .ofString code
    · simp [comesUp, own]
    · simp [comesUp, own]

/-- Noting an issue leaves what is known of where the expectation stood. -/
theorem origin_note (expectation : Expectation) (issue : Issue) :
    (expectation.note issue).fromCommentLine = expectation.fromCommentLine ∧
      (expectation.note issue).folded = expectation.folded := by
  unfold note
  cases issue.code.toString? with
  | none => exact ⟨rfl, rfl⟩
  | some code =>
    simp only
    split <;> exact ⟨rfl, rfl⟩

/-- Noting a run of issues leaves what is known of where the expectation stood. -/
theorem origin_foldl_note (expectation : Expectation) (issues : List Issue) :
    (issues.foldl note expectation).fromCommentLine = expectation.fromCommentLine ∧
      (issues.foldl note expectation).folded = expectation.folded := by
  induction issues generalizing expectation with
  | nil => exact ⟨rfl, rfl⟩
  | cons issue rest ih =>
    have first := expectation.origin_note issue
    have later := ih (expectation.note issue)
    exact ⟨later.1.trans first.1, later.2.trans first.2⟩

/-- Runs with the same issues leave the same marks. -/
theorem sameMarks_foldl_note {expectation : Expectation} (distinct : expectation.Distinct)
    {issues others : List Issue} (same : ∀ issue, issue ∈ issues ↔ issue ∈ others) :
    (issues.foldl note expectation).SameMarks (others.foldl note expectation) where
  details := by
    rw [details_foldl_note distinct, details_foldl_note distinct]
    refine List.map_congr_left fun (code, details) _ => ?_
    have ofCode : SameOfCode issues others code := fun issue _ => same issue
    simp only [ofCode.foldl_meetFirst_eq]
  raised := by
    intro code
    have ofCode : SameOfCode issues others code := fun issue _ => same issue
    rw [get?_raised_foldl_note, get?_raised_foldl_note, ofCode.comesUp_eq]
  fromCommentLine :=
    (expectation.origin_foldl_note issues).1.trans (expectation.origin_foldl_note others).1.symm
  folded :=
    (expectation.origin_foldl_note issues).2.trans (expectation.origin_foldl_note others).2.symm

/-- Expectations keep the same marks as both are given the mark of a code. -/
theorem SameMarks.mark {left right : Expectation} (same : left.SameMarks right) (code : String)
    (hit : Bool) : (left.mark code hit).SameMarks (right.mark code hit) where
  details := same.details
  raised := by
    intro asked
    rw [Expectation.mark, Expectation.mark, Keyed.get?_set, Keyed.get?_set, same.raised]
  fromCommentLine := same.fromCommentLine
  folded := same.folded

/-- Expectations keep the same marks as both are settled. -/
theorem SameMarks.settle {left right : Expectation} (same : left.SameMarks right) :
    left.settle.SameMarks right.settle := by
  have unmet : left.unmet = right.unmet := by
    rw [Expectation.unmet, Expectation.unmet, same.details]
  rw [settle_eq_foldl, settle_eq_foldl, unmet]
  generalize right.unmet.map Prod.fst = codes
  induction codes generalizing left right with
  | nil => exact same
  | cons code rest ih => exact ih (same.mark code true) unmet

end Expectation

namespace FixtureFile

/-- Two files with the same policy and the same marks, line by line. -/
structure SameMarks (left right : FixtureFile) : Prop where
  /-- The names are the same. -/
  name : left.name = right.name
  /-- The same codes take part in the verdict. -/
  mode : left.mode = right.mode
  /-- The lines are the same, and their expectations have the same marks. -/
  expectations : List.Forall₂ (fun own other => own.1 = other.1 ∧ own.2.SameMarks other.2)
    left.expectations right.expectations

/-- Runs with the same issues leave the same marks in a file. -/
theorem sameMarks_foldl_note {file : FixtureFile} (wellFormed : file.WellFormed)
    {issues others : List Issue} (same : ∀ issue, issue ∈ issues ↔ issue ∈ others) :
    (issues.foldl note file).SameMarks (others.foldl note file) := by
  rw [foldl_note, foldl_note]
  refine ⟨rfl, rfl, List.forall₂_map_left_iff.2 (List.forall₂_map_right_iff.2 ?_)⟩
  refine List.forall₂_same.2 fun (line, expectation) member => ⟨rfl, ?_⟩
  apply Expectation.sameMarks_foldl_note (wellFormed.distinct _ member)
  intro issue
  rw [List.mem_filter, List.mem_filter, same]

/-- Files keep the same marks as both are settled. -/
theorem SameMarks.settle {left right : FixtureFile} (same : left.SameMarks right) :
    left.settle.SameMarks right.settle where
  name := same.name
  mode := same.mode
  expectations := by
    refine List.forall₂_map_left_iff.2 (List.forall₂_map_right_iff.2 (same.expectations.imp ?_))
    intro own other both
    exact ⟨both.1, both.2.settle⟩

end FixtureFile

/-! ## The same failures -/

/-- The same failures, the unexpected ones in whatever order. -/
structure Failures.SameUpToOrder (left right : Failures) : Prop where
  /-- The same issues were not raised, in the same order. -/
  notRaised : left.notRaised = right.notRaised
  /-- The same issues are unexpected, each as often. -/
  unexpected : left.unexpected.Perm right.unexpected

/-- Failures that are the same up to order pass or fail together. -/
theorem Failures.SameUpToOrder.passed_eq {left right : Failures} (same : left.SameUpToOrder right) :
    left.passed = right.passed := by
  have unexpected : left.unexpected.isEmpty = right.unexpected.isEmpty := same.unexpected.isEmpty_eq
  rw [Failures.passed, Failures.passed, unexpected, same.notRaised]

section Order

variable {files : Keyed FixtureFile} (excluded included : List String) {issues others : List Issue}

/-- Promotion depends on which issues there are. -/
theorem promoteFiles_congr (files : Keyed FixtureFile)
    (same : ∀ issue, issue ∈ issues ↔ issue ∈ others) :
    promoteFiles files (issueCodes issues) = promoteFiles files (issueCodes others) :=
  List.map_congr_left fun entry _ => congrArg (entry.1, ·) (entry.2.promote_congr same)

/-- The failures of a path are the same up to order for issues in another order. -/
theorem diffAt_perm (wellFormed : ∀ path file, Keyed.get? files path = some file → file.WellFormed)
    (perm : issues.Perm others) (path : String) :
    (diffAt files included issues path).SameUpToOrder (diffAt files included others path) := by
  have here : (issuesAt path issues).Perm (issuesAt path others) := perm.filter _
  constructor
  · unfold diffAt
    cases found : Keyed.get? files path with
    | none => rfl
    | some file =>
      exact Reconciliation.missingIssues_foldl_note_congr (wellFormed path file found)
        (fun issue _ => here.mem_iff) path
  · exact here.filter _

/-- Failures are listed for the same paths. -/
theorem mem_diffPaths_perm (perm : issues.Perm others) (path : String) :
    path ∈ diffPaths files excluded issues ↔ path ∈ diffPaths files excluded others := by
  rw [mem_diffPaths_iff, mem_diffPaths_iff]
  refine and_congr_right fun _ => or_congr_right ?_
  exact exists_congr fun issue => and_congr_left fun _ => perm.mem_iff

/-- Under every path the same failures are listed up to order. -/
theorem failures_perm (distinct : (Keyed.keys files).Nodup)
    (wellFormed : ∀ entry ∈ files, entry.2.WellFormed) (perm : issues.Perm others)
    (path : String) :
    Option.Rel Failures.SameUpToOrder
      (Keyed.get? (reconcile files excluded included issues).failures path)
      (Keyed.get? (reconcile files excluded included others).failures path) := by
  have promoted : ∀ path file,
      Keyed.get? (promoteFiles files (issueCodes issues)) path = some file → file.WellFormed := by
    intro path file found
    rw [promoteFiles, Keyed.get?_map_value fun _ (file : FixtureFile) =>
      file.promote (issueCodes issues)] at found
    obtain ⟨own, present, rfl⟩ := Option.map_eq_some_iff.1 found
    exact (wellFormed _ ((Keyed.get?_eq_some_iff distinct path own).1 present)).promote _
  have same := promoteFiles_congr files fun issue => perm.mem_iff (a := issue)
  rw [failures_reconcile excluded included issues distinct wellFormed,
    failures_reconcile excluded included others distinct wellFormed, Keyed.get?_map_keys,
    Keyed.get?_map_keys, ← same]
  by_cases listed : path ∈ diffPaths files excluded issues
  · rw [if_pos listed, if_pos ((mem_diffPaths_perm excluded perm path).1 listed)]
    exact .some (diffAt_perm included promoted perm path)
  · rw [if_neg listed, if_neg fun later => listed ((mem_diffPaths_perm excluded perm path).2 later)]
    exact .none

/-- If a report passes, so does the report in another order. -/
theorem passed_of_perm (distinct : (Keyed.keys files).Nodup)
    (wellFormed : ∀ entry ∈ files, entry.2.WellFormed) (perm : issues.Perm others)
    (passed : (reconcile files excluded included issues).passed = true) :
    (reconcile files excluded included others).passed = true := by
  have before := wellFormed_reconcile excluded included issues distinct wellFormed
  have after := wellFormed_reconcile excluded included others distinct wellFormed
  rw [before.tallied, List.all_eq_true] at passed
  rw [after.tallied, List.all_eq_true]
  intro (path, failures) member
  have shown := (Keyed.get?_eq_some_iff after.failures path failures).2 member
  have both := failures_perm excluded included distinct wellFormed perm path
  rw [shown] at both
  cases found : Keyed.get? (reconcile files excluded included issues).failures path with
  | none =>
    rw [found] at both
    cases both
  | some own =>
    rw [found] at both
    cases both with
    | some same =>
      have listed := (Keyed.get?_eq_some_iff before.failures path own).1 found
      rw [← same.passed_eq]
      exact passed _ listed

/-- The file of a path is left with the same marks. -/
theorem files_perm (distinct : (Keyed.keys files).Nodup)
    (wellFormed : ∀ entry ∈ files, entry.2.WellFormed) (perm : issues.Perm others)
    (path : String) :
    Option.Rel FixtureFile.SameMarks
      (Keyed.get? (reconcile files excluded included issues).files path)
      (Keyed.get? (reconcile files excluded included others).files path) := by
  rw [get?_files_reconcile excluded included issues distinct wellFormed,
    get?_files_reconcile excluded included others distinct wellFormed]
  cases found : Keyed.get? files path with
  | none => exact .none
  | some file =>
    have own : file.WellFormed :=
      wellFormed _ ((Keyed.get?_eq_some_iff distinct path file).1 found)
    have promoted := file.promote_congr fun issue => perm.mem_iff (a := issue)
    have here : (issuesAt path (countedIssues excluded issues)).Perm
        (issuesAt path (countedIssues excluded others)) := (perm.filter _).filter _
    have noted := FixtureFile.sameMarks_foldl_note (own.promote (issueCodes issues))
      fun issue => here.mem_iff (a := issue)
    refine .some ?_
    simp only [← promoted]
    split
    · exact noted.settle
    · exact noted

/-- Issues in another order give the same verdict and failures for the same paths. Under each path
the same issues were not raised, and the same ones are unexpected up to order. And every file is
left with the same policy and the same marks. This holds whatever was noted in the files before. -/
theorem reconcile_perm (files : Keyed FixtureFile) (excluded included : List String)
    (issues others : List Issue) (distinct : (Keyed.keys files).Nodup)
    (wellFormed : ∀ entry ∈ files, entry.2.WellFormed) (perm : issues.Perm others) :
    let one := reconcile files excluded included issues
    let other := reconcile files excluded included others
    one.passed = other.passed ∧
      (∀ path, path ∈ Keyed.keys one.failures ↔ path ∈ Keyed.keys other.failures) ∧
      (∀ path, Option.Rel Failures.SameUpToOrder (Keyed.get? one.failures path)
        (Keyed.get? other.failures path)) ∧
      ∀ path, Option.Rel FixtureFile.SameMarks (Keyed.get? one.files path)
        (Keyed.get? other.files path) := by
  intro one other
  refine ⟨?_, fun path => ?_, failures_perm excluded included distinct wellFormed perm,
    files_perm excluded included distinct wellFormed perm⟩
  · rw [Bool.eq_iff_iff]
    exact ⟨passed_of_perm excluded included distinct wellFormed perm,
      passed_of_perm excluded included distinct wellFormed perm.symm⟩
  · rw [keys_failures_reconcile excluded included issues distinct wellFormed,
      keys_failures_reconcile excluded included others distinct wellFormed]
    exact mem_diffPaths_perm excluded perm path

end Order

/-- Two codes that a line does not list come up in either order. The marks stand in another order
then, but the failures are the same up to order, and so are the marks. -/
theorem reconcile_perm_unlisted_codes :
    let first : Issue :=
      { code := "C-1", position := { start := { line := 1 }, resolved := "/a" } }
    let second : Issue :=
      { code := "D-1", position := { start := { line := 1 }, resolved := "/a" } }
    let one := reconcile [("/a", twoLines)] [] [] [first, second]
    let other := reconcile [("/a", twoLines)] [] [] [second, first]
    one.files ≠ other.files ∧ one.passed = other.passed ∧
      Option.Rel Failures.SameUpToOrder (Keyed.get? one.failures "/a")
        (Keyed.get? other.failures "/a") ∧
      Option.Rel FixtureFile.SameMarks (Keyed.get? one.files "/a")
        (Keyed.get? other.files "/a") := by
  intro first second one other
  have wellFormed : ∀ entry ∈ [("/a", twoLines)], entry.2.WellFormed :=
    List.forall_mem_singleton.2 wellFormed_twoLines
  obtain ⟨passed, -, failures, files⟩ := reconcile_perm [("/a", twoLines)] [] [] [first, second]
    [second, first] (by decide) wellFormed (List.Perm.swap second first [])
  exact ⟨by decide +kernel, passed, failures "/a", files "/a"⟩

end LintBench
