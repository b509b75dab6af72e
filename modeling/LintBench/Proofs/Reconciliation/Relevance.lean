import LintBench.Proofs.Reconciliation.Rounds

/-!
# What the failures of a file depend on

Every issue at a file's path leaves marks in it, also one whose code the file's policy
leaves out. But marks are kept code by code, and what is missing is listed code by code.
So what is missing of a code depends on which issues of this code there are, and the
failures of a file depend on the issues that take part in the verdict on it, and on
nothing else that is reported or expected elsewhere.
-/

namespace LintBench

/-- Whether two runs have the same issues of a code, in whatever order and number. -/
def SameOfCode (issues others : List Issue) (code : String) : Prop :=
  ∀ issue : Issue, issue.code = .ofString code → (issue ∈ issues ↔ issue ∈ others)

/-- A test that some issue of a run passes depends on which issues the run has. -/
theorem any_congr_of_mem {issues others : List Issue}
    (same : ∀ issue, issue ∈ issues ↔ issue ∈ others) (test : Issue → Bool) :
    issues.any test = others.any test := by
  rw [Bool.eq_iff_iff, List.any_eq_true, List.any_eq_true]
  exact exists_congr fun issue => and_congr_left fun _ => same issue

namespace SameOfCode

variable {issues others : List Issue} {code : String}

/-- The issues of the code are the same ones. -/
theorem mem_filter (same : SameOfCode issues others code) (issue : Issue) :
    issue ∈ issues.filter (fun issue => issue.code = .ofString code) ↔
      issue ∈ others.filter fun issue => issue.code = .ofString code := by
  simp only [List.mem_filter, decide_eq_true_eq]
  exact and_congr_left (same issue)

/-- The code comes up in both runs or in neither. -/
theorem comesUp_eq (same : SameOfCode issues others code) :
    Expectation.comesUp issues code = Expectation.comesUp others code := by
  unfold Expectation.comesUp
  rw [Bool.eq_iff_iff, List.any_eq_true, List.any_eq_true]
  refine exists_congr fun issue => and_congr_left fun own => ?_
  rw [decide_eq_true_eq] at own
  exact same issue own

/-- Both runs meet the same details of the code. -/
theorem foldl_meetFirst_eq (same : SameOfCode issues others code) (details : List Detail) :
    (issues.filter fun issue => issue.code = .ofString code).foldl meetFirst details =
      (others.filter fun issue => issue.code = .ofString code).foldl meetFirst details := by
  have any := any_congr_of_mem same.mem_filter
  rw [foldl_meetFirst, foldl_meetFirst]
  simp only [any]

/-- What is the same of both runs is the same of their issues on a line. -/
theorem filter (same : SameOfCode issues others code) (test : Issue → Bool) :
    SameOfCode (issues.filter test) (others.filter test) code := by
  intro issue own
  rw [List.mem_filter, List.mem_filter]
  exact and_congr_left fun _ => same issue own

end SameOfCode

/-! ## What is missing of some codes -/

namespace Expectation

variable {expectation : Expectation} {issues others : List Issue} {admitted : String → Bool}

/-- Which details of some codes are unmet after a run depends on its issues of these codes. -/
theorem filter_unmet_foldl_note_congr (distinct : expectation.Distinct)
    (same : ∀ code, admitted code = true → SameOfCode issues others code) :
    (issues.foldl note expectation).unmet.filter (fun entry => admitted entry.1) =
      (others.foldl note expectation).unmet.filter fun entry => admitted entry.1 := by
  unfold unmet
  rw [details_foldl_note distinct, details_foldl_note distinct, List.flatMap_map,
    List.flatMap_map, List.filter_flatMap, List.filter_flatMap]
  refine List.flatMap_congr fun (code, details) _ => ?_
  cases counts : admitted code with
  | true =>
    have met := (same code counts).foldl_meetFirst_eq details
    simp only [met]
  | false => simp [List.filter_map, Function.comp_def, counts]

/-- A code is among those with unmet details after both runs or after neither. -/
theorem contains_unmet_foldl_note_congr (distinct : expectation.Distinct)
    (same : ∀ code, admitted code = true → SameOfCode issues others code) {code : String}
    (counts : admitted code = true) :
    ((issues.foldl note expectation).unmet.map Prod.fst).contains code =
      ((others.foldl note expectation).unmet.map Prod.fst).contains code := by
  have kept : ∀ unmet : List (String × Detail), code ∈ unmet.map Prod.fst ↔
      code ∈ (unmet.filter fun entry => admitted entry.1).map Prod.fst := by
    intro unmet
    simp only [List.mem_map, List.mem_filter]
    constructor
    · rintro ⟨entry, member, rfl⟩
      exact ⟨entry, ⟨member, counts⟩, rfl⟩
    · rintro ⟨entry, ⟨member, -⟩, own⟩
      exact ⟨entry, member, own⟩
  rw [Bool.eq_iff_iff, List.contains_iff_mem, List.contains_iff_mem, kept,
    filter_unmet_foldl_note_congr distinct same, ← kept]

/-- What is missing of some codes after a run depends on its issues of these codes. The marks that
stay unset are those of the start of which neither the code nor, by way of settling, one of its
details has come up. -/
theorem filter_missing_foldl_note_congr (distinct : expectation.Distinct)
    (same : ∀ code, admitted code = true → SameOfCode issues others code) :
    (issues.foldl note expectation).missing.filter (fun entry => admitted entry.1) =
      (others.foldl note expectation).missing.filter fun entry => admitted entry.1 := by
  have left : ∀ run : List Issue,
      (run.foldl note expectation).settle.raised.filter (fun entry => !entry.2) =
        (expectation.raised.filter fun entry => !entry.2 && !comesUp run entry.1).filter
          fun entry => !((run.foldl note expectation).unmet.map Prod.fst).contains entry.1 := by
    intro run
    rw [filter_unraised_settle (distinct.foldl_note run), filter_unraised_and,
      filter_unraised_foldl_note distinct]
  have unmet := filter_unmet_foldl_note_congr distinct same
  rw [missing, missing, List.filter_append, List.filter_append, unmet, left, left]
  congr 1
  rw [List.filter_map, List.filter_map]
  refine congrArg _ ?_
  rw [List.filter_filter, List.filter_filter, List.filter_filter, List.filter_filter]
  apply List.filter_congr
  rintro ⟨code, hit⟩ -
  simp only [Function.comp_apply]
  cases counts : admitted code with
  | true =>
    rw [(same code counts).comesUp_eq, contains_unmet_foldl_note_congr distinct same counts]
  | false => rfl

end Expectation

/-- What a file misses after a run depends on the issues of the codes that take part in the
verdict. -/
theorem Reconciliation.missingIssues_foldl_note_congr {file : FixtureFile}
    (wellFormed : file.WellFormed) {issues others : List Issue}
    (same : ∀ issue : Issue, file.mode.admits issue.code = true →
      (issue ∈ issues ↔ issue ∈ others)) (path : String) :
    missingIssues path (issues.foldl FixtureFile.note file) =
      missingIssues path (others.foldl FixtureFile.note file) := by
  have codes : ∀ code, file.mode.admits (.ofString code) = true →
      SameOfCode issues others code := by
    intro code counts issue own
    apply same
    rw [own]
    exact counts
  unfold missingIssues
  rw [FixtureFile.foldl_note, FixtureFile.foldl_note, List.flatMap_map, List.flatMap_map]
  refine List.flatMap_congr fun (line, expectation) member => ?_
  have distinct := wellFormed.distinct _ member
  have missing := Expectation.filter_missing_foldl_note_congr distinct fun code counts =>
    (codes code counts).filter fun issue => issue.isOn line
  simp only [shouldReport]
  exact congrArg _ missing

/-! ## The issues that take part -/

/-- The issues that take part in the verdict on a file: those at its path whose codes its policy
admits, once it is promoted. -/
def relevantIssues (file : FixtureFile) (path : String) (issues : List Issue) : List Issue :=
  (issuesAt path issues).filter fun issue =>
    shouldReport (some (file.promote (issueCodes issues))) issue.code

/-- Promotion depends on whether the name of the file is among the codes. -/
theorem FixtureFile.promote_congr_codes (file : FixtureFile) {codes others : List LooseText}
    (named : LooseText.ofString file.name ∈ codes ↔ LooseText.ofString file.name ∈ others) :
    file.promote codes = file.promote others := by
  have contains : codes.contains (.ofString file.name) = others.contains (.ofString file.name) := by
    rw [Bool.eq_iff_iff, List.contains_iff_mem, List.contains_iff_mem]
    exact named
  rw [promote_eq, promote_eq, promotedMode, promotedMode, contains]

/-- A promoted file is found under its path. -/
theorem get?_promoteFiles {files : Keyed FixtureFile} {path : String} {file : FixtureFile}
    (found : Keyed.get? files path = some file) (codes : List LooseText) :
    Keyed.get? (promoteFiles files codes) path = some (file.promote codes) := by
  rw [promoteFiles, Keyed.get?_map_value fun _ (file : FixtureFile) => file.promote codes, found]
  rfl

/-- Promotion leaves a file well-formed. -/
theorem FixtureFile.WellFormed.promote {file : FixtureFile} (wellFormed : file.WellFormed)
    (codes : List LooseText) : (file.promote codes).WellFormed := by
  have same := file.expectations_promote codes
  exact ⟨same ▸ wellFormed.ordered, same ▸ wellFormed.distinct⟩

/-- What is unexpected at the path of a file are the issues that its policy admits and that it does
not await. -/
theorem filter_isUnexpected {files : Keyed FixtureFile} {path : String} {file : FixtureFile}
    (found : Keyed.get? files path = some file) (included : List String) (issues : List Issue) :
    (issuesAt path issues).filter (isUnexpected files included) =
      ((issuesAt path issues).filter fun issue => file.mode.admits issue.code).filter
        fun issue => !file.awaits issue := by
  rw [List.filter_filter]
  refine List.filter_congr fun issue member => ?_
  have here : issue.position.resolved = path := of_decide_eq_true (List.mem_filter.1 member).2
  rw [isUnexpected, here, found]
  exact Bool.and_comm _ _

/-- The failures at the path of a file depend on the issues there that its policy admits. -/
theorem diffAt_congr {files others : Keyed FixtureFile} {path : String} {file : FixtureFile}
    (here : Keyed.get? files path = some file) (there : Keyed.get? others path = some file)
    (wellFormed : file.WellFormed) (included : List String) {issues reported : List Issue}
    (same : (issuesAt path issues).filter (fun issue => file.mode.admits issue.code) =
      (issuesAt path reported).filter fun issue => file.mode.admits issue.code) :
    diffAt files included issues path = diffAt others included reported path := by
  have members : ∀ issue : Issue, file.mode.admits issue.code = true →
      (issue ∈ issuesAt path issues ↔ issue ∈ issuesAt path reported) := by
    intro issue counts
    have both := congrArg (issue ∈ ·) same
    simpa only [List.mem_filter, counts, and_true, eq_iff_iff] using both
  have missing := Reconciliation.missingIssues_foldl_note_congr wellFormed members path
  rw [diffAt, diffAt, here, there, filter_isUnexpected here, filter_isUnexpected there, same]
  simp only [missing]

/-- The failures of a file do not depend on more than the issues that take part in the verdict on
it. If two reports have these in common, and if both or neither have the code that the file is named
after, then they give the same failures at its path, whatever other files there are and whatever
else is reported for these or under codes that the policy leaves out. -/
theorem failures_eq_of_relevantIssues_eq (files others : Keyed FixtureFile)
    (excluded included : List String) (issues reported : List Issue) (path : String)
    (file : FixtureFile)
    (distinct : (Keyed.keys files).Nodup) (distinctOthers : (Keyed.keys others).Nodup)
    (wellFormed : ∀ entry ∈ files, entry.2.WellFormed)
    (wellFormedOthers : ∀ entry ∈ others, entry.2.WellFormed)
    (counted : isExcluded excluded path = false)
    (here : Keyed.get? files path = some file) (there : Keyed.get? others path = some file)
    (named : LooseText.ofString file.name ∈ issueCodes issues ↔
      LooseText.ofString file.name ∈ issueCodes reported)
    (same : relevantIssues file path issues = relevantIssues file path reported) :
    (Keyed.get? (reconcile files excluded included issues).failures path).isSome = true ∧
      Keyed.get? (reconcile files excluded included issues).failures path =
        Keyed.get? (reconcile others excluded included reported).failures path := by
  have listed : ∀ (files : Keyed FixtureFile) (issues : List Issue),
      Keyed.get? files path = some file → path ∈ diffPaths files excluded issues := by
    intro files issues found
    exact (mem_diffPaths_iff excluded issues).2
      ⟨counted, .inl ((Keyed.mem_keys_iff files path).2 ⟨file, found⟩)⟩
  have promoted := file.promote_congr_codes named
  have own : file.WellFormed := wellFormed _ ((Keyed.get?_eq_some_iff distinct path file).1 here)
  have found := get?_promoteFiles here (issueCodes issues)
  have foundThere := get?_promoteFiles there (issueCodes reported)
  rw [← promoted] at foundThere
  have relevant : (issuesAt path issues).filter (fun issue =>
        (file.promote (issueCodes issues)).mode.admits issue.code) =
      (issuesAt path reported).filter fun issue =>
        (file.promote (issueCodes issues)).mode.admits issue.code := by
    rw [relevantIssues, relevantIssues, ← promoted] at same
    exact same
  have failures := diffAt_congr found foundThere (own.promote _) included relevant
  have atPath := get?_failures_reconcile excluded included issues distinct wellFormed
    (listed files issues here)
  have atPathThere := get?_failures_reconcile excluded included reported distinctOthers
    wellFormedOthers (listed others reported there)
  constructor
  · rw [atPath]
    rfl
  · rw [atPath, atPathThere, failures]

/-- The fixture with two details of one code is well-formed. -/
theorem wellFormed_twoLines : twoLines.WellFormed :=
  ⟨List.pairwise_pair.2 (by decide), List.forall_mem_cons.2 ⟨⟨by decide, by decide⟩,
    List.forall_mem_singleton.2 ⟨by decide, by decide⟩⟩⟩

/-- A file in which one of two details was met before, and whose policy leaves out one code. -/
def leavingOut : FixtureFile :=
  { name := "a"
    expectations :=
      [(1, { details := [("A-1", [{ column := 10, hit := true }, { column := 12 }]), ("B-1", [])],
             raised := [("A-1", true), ("B-1", false)] })]
    mode := .ignoring ["B-1"] }

/-- A report that has no more than the code that is left out, and a code in another file, gives
the failures of an empty report. -/
theorem failures_eq_of_relevantIssues_eq_ignored :
    let report : List Issue :=
      [{ code := "B-1", position := { start := { line := 1, column := 10 }, resolved := "/a" } },
       { code := "A-1", position := { start := { line := 1, column := 12 }, resolved := "/b" } }]
    Keyed.get? (reconcile [("/a", leavingOut), ("/b", twoLines)] [] [] report).failures "/a" =
        Keyed.get? (reconcile [("/a", leavingOut)] [] [] []).failures "/a" ∧
      Keyed.get? (reconcile [("/a", leavingOut)] [] [] []).failures "/a" =
        some { notRaised := [Reconciliation.notRaised "/a" 1 "A-1" { column := 12 }] } := by
  intro report
  have wellFormed : leavingOut.WellFormed :=
    ⟨List.pairwise_singleton _ _, List.forall_mem_singleton.2 ⟨by decide, by decide⟩⟩
  have both := failures_eq_of_relevantIssues_eq [("/a", leavingOut), ("/b", twoLines)]
    [("/a", leavingOut)] [] [] report [] "/a" leavingOut (by decide) (by decide)
    (List.forall_mem_cons.2 ⟨wellFormed, List.forall_mem_singleton.2 wellFormed_twoLines⟩)
    (List.forall_mem_singleton.2 wellFormed) rfl rfl rfl (by decide) (by decide)
  exact ⟨both.2, by decide +kernel⟩

end LintBench
