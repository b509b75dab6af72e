import LintBench.Proofs.Reconciliation.Reference

/-!
# Rounds on the same files

A reconciliation leaves marks behind, and the next one starts from them. What is
left says no more than which issues came before: codes that were marked because
their details are unmet have no part in what is missing, and a file that was
promoted is as if it had been promoted at once. So a round finds what a single
run over all issues so far finds, as far as its own issues go.
-/

namespace LintBench

/-! ## Expectations that miss the same -/

namespace Expectation

/-- The codes without details that are not marked as raised. -/
def bare (expectation : Expectation) : Keyed Bool :=
  expectation.raised.filter fun entry =>
    !entry.2 && Keyed.get? expectation.details entry.1 = some []

/-- Every code that is not marked as raised is listed, without details or with one that no issue
has met. -/
def Accounted (expectation : Expectation) : Prop :=
  ∀ entry ∈ expectation.raised, entry.2 = false →
    ∃ details, Keyed.get? expectation.details entry.1 = some details ∧
      (details = [] ∨ ∃ detail ∈ details, detail.hit = false)

/-- A code has an unmet detail if one of its details is unmet. -/
theorem mem_unmet_iff {expectation : Expectation} (distinct : expectation.Distinct)
    (code : String) :
    code ∈ expectation.unmet.map Prod.fst ↔
      ∃ details, Keyed.get? expectation.details code = some details ∧
        ∃ detail ∈ details, detail.hit = false := by
  simp only [Keyed.get?_eq_some_iff distinct.details, unmet, List.mem_map, List.mem_flatMap,
    List.mem_filter, Bool.not_eq_true', Prod.exists]
  grind

/-- A fresh expectation is accounted for. -/
theorem Fresh.accounted {expectation : Expectation} (fresh : expectation.Fresh) :
    expectation.Accounted := by
  intro (code, hit) member _
  have listed : code ∈ Keyed.keys expectation.details :=
    fresh.inStep ▸ List.mem_map_of_mem member
  obtain ⟨details, found⟩ := (Keyed.mem_keys_iff _ _).1 listed
  refine ⟨details, found, ?_⟩
  cases details with
  | nil => exact .inl rfl
  | cons detail rest =>
    have own := (Keyed.get?_eq_some_iff fresh.distinct _ _).1 found
    exact .inr ⟨detail, List.mem_cons_self, fresh.unmet _ own detail List.mem_cons_self⟩

/-- What is missing of an expectation that is accounted for: its unmet details, and then its bare
codes. -/
theorem missing_eq {expectation : Expectation} (distinct : expectation.Distinct)
    (accounted : expectation.Accounted) :
    expectation.missing =
      expectation.unmet ++ expectation.bare.map fun entry => (entry.1, Detail.anything) := by
  have codes : expectation.settle.raised.filter (fun entry => !entry.2) = expectation.bare := by
    rw [filter_unraised_settle distinct, bare]
    refine List.filter_congr fun (code, hit) member => ?_
    cases hit with
    | true => rfl
    | false =>
      obtain ⟨details, found, some⟩ := accounted _ member rfl
      have unmet := mem_unmet_iff distinct code
      rw [Bool.eq_iff_iff]
      simp only [found, Option.some.injEq, exists_eq_left'] at unmet
      simp only [Bool.not_false, Bool.true_and, Bool.not_eq_true', List.contains_eq_mem,
        decide_eq_false_iff_not, decide_eq_true_eq, found, Option.some.injEq, unmet]
      constructor
      · exact fun none => some.resolve_right none
      · rintro rfl ⟨detail, member, -⟩
        cases member
  rw [missing, codes]

/-- Settling leaves the details. -/
theorem details_settle (expectation : Expectation) :
    expectation.settle.details = expectation.details := by
  rw [settle_eq_foldl]
  generalize expectation.unmet.map Prod.fst = codes
  induction codes generalizing expectation with
  | nil => rfl
  | cons code rest ih => exact ih (expectation.mark code true)

/-- Settling leaves the bare codes. -/
theorem bare_settle {expectation : Expectation} (distinct : expectation.Distinct) :
    expectation.settle.bare = expectation.bare := by
  unfold bare
  rw [filter_unraised_and, filter_unraised_settle distinct, details_settle, List.filter_filter]
  refine List.filter_congr fun (code, hit) _ => ?_
  cases found : Keyed.get? expectation.details code with
  | none => simp
  | some details =>
    cases details with
    | cons detail rest => simp
    | nil =>
      have none : code ∉ expectation.unmet.map Prod.fst := by
        simp [mem_unmet_iff distinct, found]
      simp only [List.contains_eq_mem, none]
      simp

/-- Settling leaves an expectation accounted for. -/
theorem Accounted.settle {expectation : Expectation} (accounted : expectation.Accounted)
    (distinct : expectation.Distinct) : expectation.settle.Accounted := by
  intro entry member unraised
  have kept : entry ∈ expectation.settle.raised.filter fun entry => !entry.2 :=
    List.mem_filter.2 ⟨member, by simp [unraised]⟩
  rw [filter_unraised_settle distinct] at kept
  rw [details_settle]
  exact accounted entry (List.mem_of_mem_filter kept) unraised

/-- The details that an expectation shows under a code after an issue. -/
theorem get?_details_note {expectation : Expectation} (distinct : expectation.Distinct)
    (issue : Issue) (code : String) :
    Keyed.get? (expectation.note issue).details code =
      (Keyed.get? expectation.details code).map fun details =>
        if issue.code = .ofString code then meetFirst details issue else details := by
  rw [details_note distinct, Keyed.get?_map_value fun code details =>
    if issue.code = .ofString code then meetFirst details issue else details]

/-- A code that is not marked as raised after an issue was not before, and the issue has another
code. -/
theorem mem_unraised_note {expectation : Expectation} (distinct : expectation.Distinct)
    (issue : Issue) (entry : String × Bool) :
    entry ∈ (expectation.note issue).raised.filter (fun entry => !entry.2) ↔
      entry ∈ expectation.raised.filter (fun entry => !entry.2) ∧
        issue.code ≠ .ofString entry.1 := by
  rw [filter_unraised_note distinct]
  simp only [List.mem_filter, Bool.and_eq_true, Bool.not_eq_true', decide_eq_false_iff_not,
    and_assoc, ne_eq]

/-- Noting an issue leaves an expectation accounted for. -/
theorem Accounted.note {expectation : Expectation} (accounted : expectation.Accounted)
    (distinct : expectation.Distinct) (issue : Issue) : (expectation.note issue).Accounted := by
  intro entry member unraised
  have kept : entry ∈ (expectation.note issue).raised.filter fun entry => !entry.2 :=
    List.mem_filter.2 ⟨member, by simp [unraised]⟩
  obtain ⟨before, other⟩ := (mem_unraised_note distinct issue entry).1 kept
  obtain ⟨details, found, some⟩ := accounted entry (List.mem_of_mem_filter before) unraised
  exact ⟨details, by simp [get?_details_note distinct, found, other], some⟩

/-- Noting an issue takes its code out of the bare codes. -/
theorem bare_note {expectation : Expectation} (distinct : expectation.Distinct) (issue : Issue) :
    (expectation.note issue).bare =
      expectation.bare.filter fun entry => issue.code ≠ .ofString entry.1 := by
  unfold bare
  rw [filter_unraised_and, filter_unraised_note distinct, List.filter_filter, List.filter_filter]
  refine List.filter_congr fun (code, hit) _ => ?_
  rw [get?_details_note distinct]
  by_cases same : issue.code = .ofString code
  · simp [same]
  · simp [same, Bool.and_comm]

/-- Two expectations that miss the same, now and after further issues: they have the same details
and the same bare codes, and nothing else is left open in either. -/
structure Alike (left right : Expectation) : Prop where
  /-- The first one lists no code twice. -/
  distinctLeft : left.Distinct
  /-- The second one lists no code twice. -/
  distinctRight : right.Distinct
  /-- The first one is accounted for. -/
  accountedLeft : left.Accounted
  /-- The second one is accounted for. -/
  accountedRight : right.Accounted
  /-- The details are the same, with their marks. -/
  details : left.details = right.details
  /-- The bare codes are the same. -/
  bare : left.bare = right.bare

/-- A fresh expectation is like itself. -/
theorem Fresh.alike {expectation : Expectation} (fresh : expectation.Fresh) :
    expectation.Alike expectation :=
  ⟨fresh.toDistinct, fresh.toDistinct, fresh.accounted, fresh.accounted, rfl, rfl⟩

/-- Expectations that are alike miss the same. -/
theorem Alike.missing {left right : Expectation} (alike : left.Alike right) :
    left.missing = right.missing := by
  rw [missing_eq alike.distinctLeft alike.accountedLeft,
    missing_eq alike.distinctRight alike.accountedRight, alike.bare, unmet, unmet, alike.details]

/-- Expectations stay alike as both note an issue. -/
theorem Alike.note {left right : Expectation} (alike : left.Alike right) (issue : Issue) :
    (left.note issue).Alike (right.note issue) where
  distinctLeft := alike.distinctLeft.note issue
  distinctRight := alike.distinctRight.note issue
  accountedLeft := alike.accountedLeft.note alike.distinctLeft issue
  accountedRight := alike.accountedRight.note alike.distinctRight issue
  details := by rw [details_note alike.distinctLeft, details_note alike.distinctRight, alike.details]
  bare := by rw [bare_note alike.distinctLeft, bare_note alike.distinctRight, alike.bare]

/-- An expectation that was settled is still like the other. -/
theorem Alike.settle {left right : Expectation} (alike : left.Alike right) :
    left.settle.Alike right where
  distinctLeft := alike.distinctLeft.settle
  distinctRight := alike.distinctRight
  accountedLeft := alike.accountedLeft.settle alike.distinctLeft
  accountedRight := alike.accountedRight
  details := (details_settle left).trans alike.details
  bare := (bare_settle alike.distinctLeft).trans alike.bare

end Expectation

/-! ## Files that miss the same -/

namespace FixtureFile

/-- The policy of a file that may be named after one of some codes. -/
def promotedMode (file : FixtureFile) (codes : List LooseText) : CheckMode :=
  if file.mode = .all ∧ codes.contains (.ofString file.name) then .only [file.name] else file.mode

/-- Promotion changes nothing but the policy. -/
theorem promote_eq (file : FixtureFile) (codes : List LooseText) :
    file.promote codes = { file with mode := file.promotedMode codes } := by
  unfold promote promotedMode
  obtain ⟨name, expectations, mode⟩ := file
  cases mode with
  | all =>
    simp only [true_and]
    split <;> rfl
  | only listed => simp
  | ignoring listed => simp

/-- Two files with the same policy whose expectations are alike line by line. -/
structure Alike (left right : FixtureFile) : Prop where
  /-- The names are the same. -/
  name : left.name = right.name
  /-- The same codes take part in the verdict. -/
  mode : left.mode = right.mode
  /-- The lines are the same, and their expectations are alike. -/
  expectations : List.Forall₂ (fun own other => own.1 = other.1 ∧ own.2.Alike other.2)
    left.expectations right.expectations

/-- A fresh file is like itself. -/
theorem Fresh.alike {file : FixtureFile} (fresh : file.Fresh) : file.Alike file :=
  ⟨rfl, rfl, List.forall₂_same.2 fun entry member => ⟨rfl, (fresh.fresh entry member).alike⟩⟩

/-- Files stay alike as both note an issue. -/
theorem Alike.note {left right : FixtureFile} (alike : left.Alike right) (issue : Issue) :
    (left.note issue).Alike (right.note issue) where
  name := alike.name
  mode := alike.mode
  expectations := by
    refine List.forall₂_map_left_iff.2 (List.forall₂_map_right_iff.2 (alike.expectations.imp ?_))
    rintro ⟨line, own⟩ ⟨_, other⟩ ⟨rfl, same⟩
    refine ⟨rfl, ?_⟩
    simp only
    split
    · exact same.note issue
    · exact same

/-- Files stay alike as both note a run of issues. -/
theorem Alike.foldl_note {left right : FixtureFile} (alike : left.Alike right)
    (issues : List Issue) :
    (issues.foldl FixtureFile.note left).Alike (issues.foldl FixtureFile.note right) := by
  induction issues generalizing left right with
  | nil => exact alike
  | cons issue rest ih => exact ih (alike.note issue)

/-- A file that was settled is still like the other. -/
theorem Alike.settle {left right : FixtureFile} (alike : left.Alike right) :
    left.settle.Alike right where
  name := alike.name
  mode := alike.mode
  expectations := by
    refine List.forall₂_map_left_iff.2 (alike.expectations.imp ?_)
    rintro ⟨line, own⟩ ⟨_, other⟩ ⟨rfl, same⟩
    exact ⟨rfl, same.settle⟩

/-- Files stay alike as both are promoted. -/
theorem Alike.promote {left right : FixtureFile} (alike : left.Alike right)
    (codes : List LooseText) : (left.promote codes).Alike (right.promote codes) := by
  rw [promote_eq, promote_eq]
  refine ⟨alike.name, ?_, alike.expectations⟩
  simp only [promotedMode, alike.name, alike.mode]

/-- Files that are alike miss the same. -/
theorem Alike.missingIssues {left right : FixtureFile} (alike : left.Alike right)
    (path : String) :
    Reconciliation.missingIssues path left = Reconciliation.missingIssues path right := by
  have admitted : ∀ code, shouldReport (some left) code = shouldReport (some right) code :=
    fun code => by simp only [shouldReport, alike.mode]
  unfold Reconciliation.missingIssues
  simp only [admitted]
  have same := alike.expectations
  generalize left.expectations = own at same
  generalize right.expectations = others at same
  induction same with
  | nil => rfl
  | cons head _ ih =>
    obtain ⟨line, missing⟩ := head
    rw [List.flatMap_cons, List.flatMap_cons, ih, line, missing.missing]

/-- Files that are alike await the same. -/
theorem Alike.awaits {left right : FixtureFile} (alike : left.Alike right) (issue : Issue) :
    left.awaits issue = right.awaits issue := by
  unfold FixtureFile.awaits
  have same := alike.expectations
  generalize left.expectations = own at same
  generalize right.expectations = others at same
  induction same with
  | nil => rfl
  | cons head _ ih =>
    obtain ⟨line, expectation⟩ := head
    simp only [List.any_cons, ih, line, expectation.details]

/-- What a run of issues leaves awaited depends on which issues it has, and not on their order or
number. -/
theorem awaited_congr (file : FixtureFile) {issues others : List Issue}
    (same : ∀ issue, issue ∈ issues ↔ issue ∈ others) : file.awaited issues = file.awaited others := by
  have any : ∀ (line : Nat) (test : Issue → Bool),
      (issues.filter fun issue => issue.isOn line).any test =
        (others.filter fun issue => issue.isOn line).any test := fun line test => by
    rw [Bool.eq_iff_iff]
    simp only [List.any_eq_true, List.mem_filter, same]
  unfold awaited Expectation.awaitedDetails Expectation.awaitedCodes Expectation.comesUp
  simp only [any]

/-- What a file awaits does not depend on the run of issues it has noted. -/
theorem awaits_foldl_note {file : FixtureFile} (wellFormed : file.WellFormed)
    (issues : List Issue) (other : Issue) :
    (issues.foldl note file).awaits other = file.awaits other := by
  induction issues generalizing file with
  | nil => rfl
  | cons issue rest ih =>
    rw [List.foldl_cons, ih (wellFormed.note issue), awaits_note wellFormed]

/-- Promotion does not change what a file notes. -/
theorem promote_foldl_note (file : FixtureFile) (issues : List Issue) (codes : List LooseText) :
    (issues.foldl note file).promote codes = issues.foldl note (file.promote codes) := by
  induction issues generalizing file with
  | nil => rfl
  | cons issue rest ih =>
    rw [List.foldl_cons, List.foldl_cons, ih, promote_eq, promote_eq]
    rfl

/-- Being promoted for two rows of issues in turn is being promoted for both at once. -/
theorem promote_promote (file : FixtureFile) (issues others : List Issue) :
    (file.promote (issueCodes issues)).promote (issueCodes others) =
      file.promote (issueCodes (issues ++ others)) := by
  have listed : ∀ issues : List Issue, ∀ code,
      (issueCodes issues).contains code = issues.any fun issue => issue.code = code := by
    intro issues code
    rw [Bool.eq_iff_iff]
    simp [issueCodes]
  simp only [promote_eq, promotedMode, listed, List.any_append]
  by_cases undecided : file.mode = .all
  · cases issues.any fun issue => issue.code = .ofString file.name <;> simp [undecided]
  · simp [undecided]

/-- Promotion depends on which issues there are, and not on their order or number. -/
theorem promote_congr (file : FixtureFile) {issues others : List Issue}
    (same : ∀ issue, issue ∈ issues ↔ issue ∈ others) :
    file.promote (issueCodes issues) = file.promote (issueCodes others) := by
  have codes : (issueCodes issues).contains (.ofString file.name) =
      (issueCodes others).contains (.ofString file.name) := by
    rw [Bool.eq_iff_iff]
    simp [issueCodes, same]
  rw [promote_eq, promote_eq, promotedMode, promotedMode, codes]

end FixtureFile

/-! ## Rounds -/

/-- The files after some rounds, each of which starts from what the one before has left. -/
def afterRounds (files : Keyed FixtureFile) (excluded included : List String)
    (rounds : List (List Issue)) : Keyed FixtureFile :=
  rounds.foldl (fun files issues => (reconcile files excluded included issues).files) files

section Rounds

variable {files : Keyed FixtureFile} (excluded included : List String)

/-- The file of a path after a reconciliation. -/
theorem get?_files_reconcile (issues : List Issue) (distinct : (Keyed.keys files).Nodup)
    (wellFormed : ∀ entry ∈ files, entry.2.WellFormed) (path : String) :
    Keyed.get? (reconcile files excluded included issues).files path =
      (Keyed.get? files path).map fun file =>
        let noted := (issuesAt path (countedIssues excluded issues)).foldl FixtureFile.note
          (file.promote (issueCodes issues))
        if path ∈ Keyed.keys (countedFiles excluded files) then noted.settle else noted := by
  have counted : Keyed.keys (countedFiles excluded
        (notedFiles excluded issues (promoteFiles files (issueCodes issues)))) =
      Keyed.keys (countedFiles excluded files) := by
    rw [keys_countedFiles, keys_countedFiles, keys_notedFiles, keys_promoteFiles]
  rw [reconcile_eq excluded included issues distinct wellFormed]
  simp only [counted]
  rw [Keyed.get?_map_value fun path (file : FixtureFile) =>
    if path ∈ Keyed.keys (countedFiles excluded files) then file.settle else file,
    notedFiles, Keyed.get?_map_value fun path (file : FixtureFile) =>
      (issuesAt path (countedIssues excluded issues)).foldl FixtureFile.note file,
    promoteFiles, Keyed.get?_map_value fun _ (file : FixtureFile) =>
      file.promote (issueCodes issues), Option.map_map, Option.map_map]
  rfl

/-- A reconciliation leaves the paths of the files. -/
theorem keys_files_reconcile (issues : List Issue) (distinct : (Keyed.keys files).Nodup)
    (wellFormed : ∀ entry ∈ files, entry.2.WellFormed) :
    Keyed.keys (reconcile files excluded included issues).files = Keyed.keys files := by
  rw [reconcile_eq excluded included issues distinct wellFormed]
  simp only
  generalize Keyed.keys (countedFiles excluded _) = counted
  rw [Keyed.keys_map_value fun path (file : FixtureFile) =>
    if path ∈ counted then file.settle else file, keys_notedFiles, keys_promoteFiles]

/-- The file of a path as a run of issues leaves it if it is not settled. -/
def notedAt (files : Keyed FixtureFile) (excluded : List String) (issues : List Issue)
    (path : String) : Option FixtureFile :=
  (Keyed.get? files path).map fun file =>
    (issuesAt path (countedIssues excluded issues)).foldl FixtureFile.note
      (file.promote (issueCodes issues))

/-- Noting issues that come later, after promotion for them, is noting all of them at once. -/
theorem notedAt_append (issues later : List Issue) (path : String) :
    (notedAt files excluded issues path).map (fun file =>
        (issuesAt path (countedIssues excluded later)).foldl FixtureFile.note
          (file.promote (issueCodes later))) =
      notedAt files excluded (issues ++ later) path := by
  simp only [notedAt, Option.map_map, countedIssues, issuesAt, List.filter_append,
    List.foldl_append]
  refine congrArg (fun change => (Keyed.get? files path).map change) (funext fun file => ?_)
  rw [Function.comp_apply, FixtureFile.promote_foldl_note, FixtureFile.promote_promote]

/-- What is known of the files after some rounds: their paths and well-formedness, and that each is
like the file that has noted all issues so far at once. -/
structure Tracks (files : Keyed FixtureFile) (excluded : List String) (issues : List Issue)
    (now : Keyed FixtureFile) : Prop where
  /-- The paths are the same. -/
  keys : Keyed.keys now = Keyed.keys files
  /-- The files are well-formed. -/
  wellFormed : ∀ entry ∈ now, entry.2.WellFormed
  /-- The files are like those that have noted everything. -/
  alike : ∀ path, Option.Rel FixtureFile.Alike (Keyed.get? now path)
    (notedAt files excluded issues path)

/-- One more round keeps track of the issues. -/
theorem Tracks.reconcile {issues : List Issue} {now : Keyed FixtureFile}
    (tracks : Tracks files excluded issues now) (distinct : (Keyed.keys files).Nodup)
    (later : List Issue) :
    Tracks files excluded (issues ++ later) (reconcile now excluded included later).files := by
  have distinctNow : (Keyed.keys now).Nodup := tracks.keys ▸ distinct
  have state := wellFormed_reconcile excluded included later distinctNow tracks.wellFormed
  refine ⟨?_, state.wellFormed, fun path => ?_⟩
  · rw [keys_files_reconcile excluded included later distinctNow tracks.wellFormed, tracks.keys]
  · rw [get?_files_reconcile excluded included later distinctNow tracks.wellFormed,
      ← notedAt_append]
    have own := tracks.alike path
    generalize Keyed.get? now path = file at own
    generalize notedAt files excluded issues path = other at own
    cases own with
    | none => exact .none
    | some alike =>
      have noted := (alike.promote (issueCodes later)).foldl_note
        (issuesAt path (countedIssues excluded later))
      refine .some ?_
      split
      · exact noted.settle
      · exact noted

/-- Rounds keep track of their issues. -/
theorem Tracks.afterRounds {issues : List Issue} {now : Keyed FixtureFile}
    (tracks : Tracks files excluded issues now) (distinct : (Keyed.keys files).Nodup)
    (rounds : List (List Issue)) :
    Tracks files excluded (issues ++ rounds.flatten) (afterRounds now excluded included rounds) := by
  induction rounds generalizing issues now with
  | nil =>
    rw [List.flatten_nil, List.append_nil]
    exact tracks
  | cons round rest ih =>
    have next := ih (tracks.reconcile excluded included distinct round)
    rwa [List.append_assoc, ← List.flatten_cons] at next

/-- Fresh files keep track of no issues. -/
theorem tracks_of_fresh (distinct : (Keyed.keys files).Nodup)
    (fresh : ∀ entry ∈ files, entry.2.Fresh) : Tracks files excluded [] files := by
  refine ⟨rfl, fun entry member => (fresh entry member).toWellFormed, fun path => ?_⟩
  cases found : Keyed.get? files path with
  | none => simp [notedAt, found]
  | some file =>
    have own := fresh _ ((Keyed.get?_eq_some_iff distinct path file).1 found)
    have unchanged : file.promote (issueCodes []) = file := by
      rw [FixtureFile.promote_eq]
      simp [FixtureFile.promotedMode, issueCodes]
    simp only [notedAt, found, countedIssues, issuesAt, List.filter_nil, List.foldl_nil,
      Option.map_some, unchanged]
    exact .some own.alike

/-- Before a round looks its issues up, the file of a path is like the one that was promoted for
all issues and has noted the earlier ones. -/
theorem Tracks.promoted {issues : List Issue} {now : Keyed FixtureFile}
    (tracks : Tracks files excluded issues now) (last : List Issue) (path : String) :
    Option.Rel FixtureFile.Alike (Keyed.get? (promoteFiles now (issueCodes last)) path)
      ((Keyed.get? (promoteFiles files (issueCodes (issues ++ last))) path).map fun file =>
        (issuesAt path (countedIssues excluded issues)).foldl FixtureFile.note file) := by
  have own := tracks.alike path
  have promoted : ∀ (files : Keyed FixtureFile) (codes : List LooseText),
      Keyed.get? (promoteFiles files codes) path =
        (Keyed.get? files path).map fun file => file.promote codes := fun files codes =>
    Keyed.get?_map_value (fun _ (file : FixtureFile) => file.promote codes) files path
  rw [promoted, promoted]
  rw [notedAt] at own
  generalize Keyed.get? now path = file at own
  cases found : Keyed.get? files path with
  | none =>
    rw [found] at own
    cases own
    exact .none
  | some other =>
    rw [found] at own
    cases own with
    | some alike =>
      have next := alike.promote (issueCodes last)
      rw [FixtureFile.promote_foldl_note, FixtureFile.promote_promote] at next
      exact .some next

/-- A round takes the same issues for unexpected as a single run over all issues. -/
theorem Tracks.isUnexpected_eq {issues : List Issue} {now : Keyed FixtureFile}
    (tracks : Tracks files excluded issues now) (distinct : (Keyed.keys files).Nodup)
    (fresh : ∀ entry ∈ files, entry.2.Fresh) (last : List Issue) :
    isUnexpected (promoteFiles now (issueCodes last)) included =
      isUnexpected (promoteFiles files (issueCodes (issues ++ last))) included := by
  funext issue
  have own := tracks.promoted excluded last issue.position.resolved
  unfold isUnexpected
  generalize Keyed.get? (promoteFiles now (issueCodes last)) issue.position.resolved = file at own
  cases found : Keyed.get? (promoteFiles files (issueCodes (issues ++ last)))
      issue.position.resolved with
  | none =>
    rw [found] at own
    cases own
    rfl
  | some other =>
    rw [found] at own
    have wellFormed := (fresh_promoteFiles (issues ++ last) distinct fresh found).toWellFormed
    cases own with
    | some alike =>
      simp only [alike.awaits, alike.mode, FixtureFile.awaits_foldl_note wellFormed]
      rw [FixtureFile.foldl_note]

/-- What the rounds up to the last one list: under each path the unexpected issues of the last
round, and what all issues so far leave awaited. -/
theorem failures_after_rounds (distinct : (Keyed.keys files).Nodup)
    (fresh : ∀ entry ∈ files, entry.2.Fresh) (rounds : List (List Issue)) (last : List Issue) :
    (reconcile (afterRounds files excluded included rounds) excluded included last).failures =
      (diffPaths files excluded last).map fun path =>
        let fixtures := promoteFiles files (issueCodes (rounds.flatten ++ last))
        (path, {
          unexpected := (issuesAt path last).filter (isUnexpected fixtures included)
          notRaised := (referenceAt fixtures included (rounds.flatten ++ last) path).notRaised }) := by
  have tracks := (tracks_of_fresh excluded distinct fresh).afterRounds excluded included distinct
    rounds
  rw [List.nil_append] at tracks
  have distinctNow : (Keyed.keys (afterRounds files excluded included rounds)).Nodup :=
    tracks.keys ▸ distinct
  have paths : diffPaths (afterRounds files excluded included rounds) excluded last =
      diffPaths files excluded last := by
    rw [diffPaths, tracks.keys, diffPaths]
  rw [failures_reconcile excluded included last distinctNow tracks.wellFormed, paths]
  refine List.map_congr_left fun path listed => ?_
  have counted := ((mem_diffPaths_iff excluded last).1 listed).1
  have own := tracks.promoted excluded last path
  rw [issuesAt_countedIssues counted] at own
  simp only [diffAt, referenceAt,
    tracks.isUnexpected_eq excluded included distinct fresh last]
  congr 2
  generalize Keyed.get? (promoteFiles (afterRounds files excluded included rounds)
    (issueCodes last)) path = file at own
  cases found : Keyed.get? (promoteFiles files (issueCodes (rounds.flatten ++ last))) path with
  | none =>
    rw [found] at own
    cases own
    rfl
  | some other =>
    rw [found] at own
    cases own with
    | some alike =>
      have ownFresh := fresh_promoteFiles (rounds.flatten ++ last) distinct fresh found
      have missing := (alike.foldl_note (issuesAt path last)).missingIssues path
      rw [← List.foldl_append, issuesAt, issuesAt, ← List.filter_append] at missing
      exact missing.trans (Reconciliation.missingIssues_foldl_note ownFresh path _)

/-- The verdict on a round is that of its failures. -/
theorem passed_after_rounds (distinct : (Keyed.keys files).Nodup)
    (fresh : ∀ entry ∈ files, entry.2.Fresh) (rounds : List (List Issue)) (last : List Issue) :
    let round := reconcile (afterRounds files excluded included rounds) excluded included last
    round.passed = round.failures.all fun entry => entry.2.passed := by
  have tracks := (tracks_of_fresh excluded distinct fresh).afterRounds excluded included distinct
    rounds
  exact (wellFormed_reconcile excluded included last (tracks.keys ▸ distinct)
    tracks.wellFormed).tallied

/-- A round that is repeated lists the same failures. -/
theorem failures_repeated (distinct : (Keyed.keys files).Nodup)
    (fresh : ∀ entry ∈ files, entry.2.Fresh) (rounds : List (List Issue)) (last : List Issue) :
    (reconcile (afterRounds files excluded included (rounds ++ [last])) excluded included
        last).failures =
      (reconcile (afterRounds files excluded included rounds) excluded included last).failures := by
  have same : ∀ issue, issue ∈ (rounds ++ [last]).flatten ++ last ↔
      issue ∈ rounds.flatten ++ last := by
    intro issue
    simp
  have promoted : promoteFiles files (issueCodes ((rounds ++ [last]).flatten ++ last)) =
      promoteFiles files (issueCodes (rounds.flatten ++ last)) :=
    List.map_congr_left fun entry _ => congrArg (entry.1, ·) (entry.2.promote_congr same)
  have awaited : ∀ (file : FixtureFile) (path : String),
      file.awaited (issuesAt path ((rounds ++ [last]).flatten ++ last)) =
        file.awaited (issuesAt path (rounds.flatten ++ last)) := fun file path =>
    file.awaited_congr fun issue => by simp only [issuesAt, List.mem_filter, same]
  rw [failures_after_rounds excluded included distinct fresh,
    failures_after_rounds excluded included distinct fresh]
  simp only [promoted, referenceAt, awaited]

end Rounds

/-- The unexpected issues that a reconciliation lists under a path. -/
def Reconciliation.unexpectedAt (outcome : Reconciliation) (path : String) : List Issue :=
  ((Keyed.get? outcome.failures path).map Failures.unexpected).getD []

/-- Whether an issue counts at a path: it was reported for the path, which is not excluded, and is
unexpected there. -/
def countsAt (files : Keyed FixtureFile) (excluded included : List String) (path : String)
    (issue : Issue) : Bool :=
  !isExcluded excluded path && issue.position.resolved = path && isUnexpected files included issue

/-- The issues that count at a path are the unexpected ones at the path, if it has failures
listed. -/
theorem filter_countsAt (files fixtures : Keyed FixtureFile) (excluded included : List String)
    (issues : List Issue) (path : String) :
    (if path ∈ diffPaths files excluded issues then
        (issuesAt path issues).filter (isUnexpected fixtures included) else []) =
      issues.filter (countsAt fixtures excluded included path) := by
  split
  · rename_i listed
    have counted := ((mem_diffPaths_iff excluded issues).1 listed).1
    rw [issuesAt, List.filter_filter]
    refine List.filter_congr fun issue _ => ?_
    simp [countsAt, counted, Bool.and_comm]
  · rename_i unlisted
    refine (List.filter_eq_nil_iff.2 fun issue reported counts => unlisted ?_).symm
    simp only [countsAt, Bool.and_eq_true, Bool.not_eq_true', decide_eq_true_eq] at counts
    exact (mem_diffPaths_iff excluded issues).2
      ⟨counts.1.1, .inr ⟨issue, reported, counts.1.2⟩⟩

/-- A round that starts from the files as earlier rounds have left them lists for every file the
same issues that were not raised as a single run over all issues so far. Of the issues that the
single run takes for unexpected it lists those that are its own. And repeating it gives the same
failures and the same verdict. -/
theorem rounds_compose (files : Keyed FixtureFile) (excluded included : List String)
    (rounds : List (List Issue)) (last : List Issue) (distinct : (Keyed.keys files).Nodup)
    (read : ∀ entry ∈ files, ∃ name content markers,
      FixtureFile.ofSource name content markers = .ok entry.2) :
    let once := reconcile files excluded included (rounds.flatten ++ last)
    let round := reconcile (afterRounds files excluded included rounds) excluded included last
    let again := reconcile round.files excluded included last
    (∀ path ∈ Keyed.keys files,
        (Keyed.get? round.failures path).map Failures.notRaised =
          (Keyed.get? once.failures path).map Failures.notRaised) ∧
      (∀ path, ∃ counts : Issue → Bool,
        once.unexpectedAt path = (rounds.flatten ++ last).filter counts ∧
          round.unexpectedAt path = last.filter counts) ∧
      again.failures = round.failures ∧ again.passed = round.passed := by
  intro once round again
  have fresh := fresh_of_read read
  have roundFailures := failures_after_rounds excluded included distinct fresh rounds last
  have onceFailures := failures_reconcile_of_fresh excluded included (rounds.flatten ++ last)
    distinct fresh
  have againFiles : round.files = afterRounds files excluded included (rounds ++ [last]) := by
    rw [afterRounds, List.foldl_append]
    rfl
  have againFailures : again.failures = round.failures := by
    have repeated := failures_repeated excluded included distinct fresh rounds last
    rwa [← againFiles] at repeated
  refine ⟨fun path listed => ?_, fun path => ?_, againFailures, ?_⟩
  · rw [roundFailures, onceFailures, Keyed.get?_map_keys, Keyed.get?_map_keys]
    simp only [mem_diffPaths_iff, listed, true_or, and_true]
    split <;> rfl
  · refine ⟨countsAt (promoteFiles files (issueCodes (rounds.flatten ++ last))) excluded included
      path, ?_, ?_⟩
    · rw [Reconciliation.unexpectedAt, onceFailures, Keyed.get?_map_keys, ← filter_countsAt files]
      split <;> rfl
    · rw [Reconciliation.unexpectedAt, roundFailures, Keyed.get?_map_keys, ← filter_countsAt files]
      split <;> rfl
  · have verdict := passed_after_rounds excluded included distinct fresh (rounds ++ [last]) last
    rw [← againFiles] at verdict
    refine verdict.trans ?_
    rw [passed_after_rounds excluded included distinct fresh rounds last]
    exact congrArg (fun failures : Keyed Failures => failures.all fun entry => entry.2.passed)
      againFailures

/-- A file that is named after a code, with two details of that code and another code. -/
def namedAfterCode : FixtureFile :=
  { name := "A-1"
    expectations :=
      [(1, { details := [("A-1", [{ column := 10 }, { column := 12 }]), ("B-1", [])],
             raised := [("A-1", false), ("B-1", false)] })] }

/-- The first round meets one detail and limits the file to its code; after the second, in which
nothing is reported that is awaited, the other detail alone is missing. -/
theorem rounds_compose_promoted :
    (Keyed.get?
        (reconcile
          (afterRounds [("/a", namedAfterCode)] [] []
            [[{ code := "A-1",
                position := { start := { line := 1, column := 10 }, resolved := "/a" } }]])
          [] [] [{ code := "C-1", position := { start := { line := 1 }, resolved := "/a" } }]).failures
        "/a").map Failures.notRaised =
      some [Reconciliation.notRaised "/a" 1 "A-1" { column := 12 }] :=
  ((rounds_compose [("/a", namedAfterCode)] [] []
    [[{ code := "A-1", position := { start := { line := 1, column := 10 }, resolved := "/a" } }]]
    [{ code := "C-1", position := { start := { line := 1 }, resolved := "/a" } }] (by decide) (by
      intro entry member
      rw [List.mem_singleton.1 member]
      exact ⟨"A-1.py", "f() # [A-1]: 10, 12; [B-1]", ["#"], by decide +kernel⟩)).1 "/a"
    (by decide)).trans (by decide +kernel)

end LintBench
