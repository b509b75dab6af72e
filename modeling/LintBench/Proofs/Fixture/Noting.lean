import LintBench.Proofs.Expectation.Marks
import LintBench.Proofs.Fixture.Placement

/-!
# Files that note issues

A file notes an issue in the expectation of the issue's line. This leaves what the
file awaits as it is, so a run of issues is noted line by line, and the details
that one issue meets are no matter to the next.
-/

namespace LintBench

/-- Whether an issue was reported on a line. -/
def Issue.isOn (issue : Issue) (line : Nat) : Bool := issue.position.start.line = line

namespace FixtureFile

/-- Every line has one expectation, the lines ascend, and no expectation lists a code twice. -/
structure WellFormed (file : FixtureFile) : Prop where
  /-- The lines ascend. -/
  ordered : LineIndex.Ordered file.expectations
  /-- Codes are listed once. -/
  distinct : ∀ entry ∈ file.expectations, entry.2.Distinct

/-- Every line has one expectation, and nothing has been raised or met yet. -/
structure Fresh (file : FixtureFile) : Prop where
  /-- The lines ascend. -/
  ordered : LineIndex.Ordered file.expectations
  /-- Nothing was noted. -/
  fresh : ∀ entry ∈ file.expectations, entry.2.Fresh

/-- A fresh file is well-formed. -/
theorem Fresh.toWellFormed {file : FixtureFile} (fresh : file.Fresh) : file.WellFormed :=
  ⟨fresh.ordered, fun entry member => (fresh.fresh entry member).toDistinct⟩

/-- A file that was read is fresh. -/
theorem fresh_of_ofSource {name content : String} {markers : List String} {file : FixtureFile}
    (read : ofSource name content markers = .ok file) : file.Fresh := by
  have ordered := (holds_of_ofSource read).ordered
  refine ⟨ordered, fun (line, expectation) member => ?_⟩
  have found := (LineIndex.get?_eq_some_iff ordered line expectation).2 member
  rw [get?_expectations_of_ofSource read] at found
  exact fresh_of_placed _ _ found

/-- Whether a file awaits an issue: its line lists its code, without details or with one that
accepts it. -/
def awaits (file : FixtureFile) (issue : Issue) : Bool :=
  file.expectations.any fun (line, expectation) =>
    issue.isOn line && expectation.details.any fun (code, details) =>
      issue.code = .ofString code && (details.isEmpty || details.any issue.fits)

/-- A file after an issue: the expectation of the issue's line has noted it. -/
def note (file : FixtureFile) (issue : Issue) : FixtureFile :=
  { file with
    expectations := file.expectations.map fun (line, expectation) =>
      (line, if issue.isOn line then expectation.note issue else expectation) }

/-- A file in which every code with an unmet detail is accounted for. -/
def settle (file : FixtureFile) : FixtureFile :=
  { file with
    expectations := file.expectations.map fun (line, expectation) =>
      (line, expectation.settle) }

end FixtureFile

/-! ## The expectation of an issue's line -/

/-- An expectation expects an issue if it lists its code, without details or with one that accepts
the issue. -/
theorem Expectation.expects_eq_any {expectation : Expectation} (distinct : expectation.Distinct)
    (issue : Issue) :
    expectation.expects issue = expectation.details.any fun (code, details) =>
      issue.code = .ofString code && (details.isEmpty || details.any issue.fits) := by
  unfold expects detailsOf
  cases spelled : issue.code.toString? with
  | none => simp [LooseText.ne_ofString spelled]
  | some own =>
    simp only [LooseText.eq_ofString_iff spelled, Option.bind_some]
    cases found : Keyed.get? expectation.details own with
    | none =>
      have unlisted := (Keyed.get?_eq_none_iff _ _).1 found
      refine (List.any_eq_false.2 fun (code, details) member => ?_).symm
      have other : code ≠ own := fun same => unlisted (same ▸ List.mem_map_of_mem member)
      simp [other]
    | some present =>
      have listed := (Keyed.get?_eq_some_iff distinct.details own present).1 found
      refine Bool.eq_iff_iff.2 ⟨fun accepted => ?_, fun some => ?_⟩
      · exact List.any_eq_true.2 ⟨_, listed, Bool.and_eq_true_iff.2 ⟨by simp, accepted⟩⟩
      · obtain ⟨⟨code, details⟩, member, accepted⟩ := List.any_eq_true.1 some
        simp only [Bool.and_eq_true, decide_eq_true_eq] at accepted
        obtain ⟨rfl, accepted⟩ := accepted
        have same := (Keyed.get?_eq_some_iff distinct.details code details).2 member
        rw [found, Option.some.injEq] at same
        exact same ▸ accepted

namespace FixtureFile

open Reconciliation (expectationAt)

/-- The expectation that an issue is looked up at is that of its line. -/
theorem expectationAt_eq_some_iff {file : FixtureFile} {issue : Issue} {line : Nat}
    {expectation : Expectation} :
    expectationAt file issue = some (line, expectation) ↔
      issue.isOn line ∧ file.expectations.get? line = some expectation := by
  unfold expectationAt Issue.isOn
  cases issue.position.start.line with
  | negSucc line => simp
  | ofNat own =>
    simp only [Option.map_eq_some_iff, Prod.mk.injEq, decide_eq_true_eq, Int.ofNat_eq_natCast,
      Int.natCast_inj]
    constructor
    · rintro ⟨_, found, rfl, rfl⟩
      exact ⟨rfl, found⟩
    · rintro ⟨rfl, found⟩
      exact ⟨expectation, found, rfl, rfl⟩

/-- An issue for whose line nothing is expected is not awaited, and noting it changes nothing. -/
theorem of_expectationAt_none {file : FixtureFile} {issue : Issue}
    (absent : expectationAt file issue = none) :
    file.awaits issue = false ∧ file.note issue = file := by
  have elsewhere : ∀ entry ∈ file.expectations, issue.isOn entry.1 = false := by
    intro (line, expectation) member
    cases found : file.expectations.get? line with
    | none => exact absurd rfl ((LineIndex.get?_eq_none_iff _ _).1 found _ member)
    | some present =>
      by_contra on
      rw [Bool.not_eq_false] at on
      rw [expectationAt_eq_some_iff.2 ⟨on, found⟩] at absent
      cases absent
  constructor
  · exact List.any_eq_false.2 fun entry member => by simp [elsewhere entry member]
  · unfold note
    refine congrArg (fun expectations => { file with expectations }) ?_
    refine (List.map_congr_left fun (line, expectation) member => ?_).trans (List.map_id _)
    have off : issue.isOn line = false := elsewhere _ member
    simp [off]

/-- An issue for whose line something is expected is awaited if it is expected there, and that
expectation notes it. -/
theorem of_expectationAt_some {file : FixtureFile} (wellFormed : file.WellFormed) {issue : Issue}
    {line : Nat} {expectation : Expectation}
    (found : expectationAt file issue = some (line, expectation)) :
    file.awaits issue = expectation.expects issue ∧
      file.note issue =
        { file with expectations := file.expectations.set line (expectation.note issue) } := by
  obtain ⟨on, present⟩ := expectationAt_eq_some_iff.1 found
  have listed := (LineIndex.get?_eq_some_iff wellFormed.ordered line expectation).1 present
  have only : ∀ other, issue.isOn other = true ↔ other = line := by
    intro other
    simp only [Issue.isOn, decide_eq_true_eq] at on ⊢
    omega
  constructor
  · rw [Expectation.expects_eq_any (wellFormed.distinct _ listed)]
    refine Bool.eq_iff_iff.2 ⟨fun some => ?_, fun accepted => ?_⟩
    · obtain ⟨⟨other, entry⟩, member, accepted⟩ := List.any_eq_true.1 some
      simp only [Bool.and_eq_true, only] at accepted
      obtain ⟨rfl, accepted⟩ := accepted
      have same := (LineIndex.get?_eq_some_iff wellFormed.ordered other entry).2 member
      rw [present, Option.some.injEq] at same
      exact same ▸ accepted
    · exact List.any_eq_true.2 ⟨_, listed, Bool.and_eq_true_iff.2 ⟨on, accepted⟩⟩
  · unfold note
    rw [LineIndex.set_eq_map_value wellFormed.ordered present fun own => own.note issue]
    refine congrArg (fun expectations => { file with expectations }) ?_
    refine List.map_congr_left fun (other, entry) _ => ?_
    simp only [only]

/-! ## Runs of issues -/

/-- A file stays well-formed as it notes an issue. -/
theorem WellFormed.note {file : FixtureFile} (wellFormed : file.WellFormed) (issue : Issue) :
    (file.note issue).WellFormed := by
  refine ⟨wellFormed.ordered.map_value fun line expectation =>
    if issue.isOn line then expectation.note issue else expectation, fun entry member => ?_⟩
  obtain ⟨⟨line, expectation⟩, listed, rfl⟩ := List.mem_map.1 member
  have distinct := wellFormed.distinct _ listed
  simp only
  split
  · exact distinct.note issue
  · exact distinct

/-- What a file awaits does not depend on what it has noted. -/
theorem awaits_note {file : FixtureFile} (wellFormed : file.WellFormed) (issue other : Issue) :
    (file.note issue).awaits other = file.awaits other := by
  have expected : ∀ file : FixtureFile, file.WellFormed → file.awaits other =
      file.expectations.any fun entry => other.isOn entry.1 && entry.2.expects other := by
    intro file wellFormed
    unfold awaits
    rw [Bool.eq_iff_iff, List.any_eq_true, List.any_eq_true]
    refine exists_congr fun entry => and_congr_right fun member => ?_
    rw [Expectation.expects_eq_any (wellFormed.distinct _ member)]
  rw [expected _ (wellFormed.note issue), expected _ wellFormed, FixtureFile.note, List.any_map,
    Bool.eq_iff_iff, List.any_eq_true, List.any_eq_true]
  refine exists_congr fun (line, expectation) => and_congr_right fun member => ?_
  have distinct := wellFormed.distinct _ member
  simp only [Function.comp_apply]
  split
  · rw [Expectation.expects_note distinct]
  · rfl

/-- A file notes a run of issues line by line. -/
theorem foldl_note (file : FixtureFile) (issues : List Issue) :
    issues.foldl note file =
      { file with
        expectations := file.expectations.map fun (line, expectation) =>
          (line, (issues.filter fun issue => issue.isOn line).foldl .note expectation) } := by
  induction issues generalizing file with
  | nil => simp
  | cons issue rest ih =>
    rw [List.foldl_cons, ih, note, List.map_map]
    refine congrArg (fun expectations => { file with expectations }) ?_
    refine List.map_congr_left fun (line, expectation) _ => ?_
    by_cases on : issue.isOn line <;> simp [on]

/-- A file stays well-formed as it is settled. -/
theorem WellFormed.settle {file : FixtureFile} (wellFormed : file.WellFormed) :
    file.settle.WellFormed := by
  refine ⟨wellFormed.ordered.map_value fun _ expectation => expectation.settle,
    fun entry member => ?_⟩
  obtain ⟨⟨line, expectation⟩, listed, rfl⟩ := List.mem_map.1 member
  exact (wellFormed.distinct _ listed).settle

/-- What a run of issues leaves awaited in a file, by ascending line: first the details of the line
and then its codes. -/
def awaited (file : FixtureFile) (issues : List Issue) : List (Nat × String × Detail) :=
  file.expectations.flatMap fun (line, expectation) =>
    let here := issues.filter fun issue => issue.isOn line
    (expectation.awaitedDetails here ++ expectation.awaitedCodes here).map (line, ·)

end FixtureFile

/-- What a fresh file misses after a run of issues is what the run leaves awaited, as far as the
codes take part in the verdict. -/
theorem Reconciliation.missingIssues_foldl_note {file : FixtureFile} (fresh : file.Fresh)
    (path : String) (issues : List Issue) :
    missingIssues path (issues.foldl FixtureFile.note file) =
      ((file.awaited issues).filter fun (_, code, _) => file.mode.admits (.ofString code)).map
        fun (line, code, detail) => notRaised path line code detail := by
  unfold missingIssues FixtureFile.awaited
  rw [FixtureFile.foldl_note, List.flatMap_map, List.filter_flatMap, List.map_flatMap]
  refine List.flatMap_congr fun (line, expectation) member => ?_
  simp only
  rw [Expectation.missing_foldl_note (fresh.fresh _ member), List.filter_map, List.map_map]
  rfl

end LintBench
