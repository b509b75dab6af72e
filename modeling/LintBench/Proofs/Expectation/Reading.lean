import LintBench.Expectation.Grammar
import LintBench.Proofs.Expectation.Merging
import LintBench.Proofs.Runs

/-!
# What reading a comment gives

A comment is read into a fresh expectation: no code stands in it twice, its marks
are in step with its details, and nothing counts as raised or met.
-/

namespace LintBench.Expectation

/-- The expectation that expects nothing is fresh. -/
theorem fresh_empty : Expectation.empty.Fresh where
  distinct := List.nodup_nil
  inStep := rfl
  unraised := by simp [empty]
  unmet := by simp [empty]

/-- Adding details that nothing has met keeps an expectation fresh. -/
theorem Fresh.add {expectation : Expectation} (fresh : expectation.Fresh) (code : String)
    {details : List Detail} (unmet : ∀ detail ∈ details, detail.hit = false) :
    (expectation.add code details).Fresh := by
  rw [add_eq_merge]
  apply fresh.merge
  constructor
  · simp [Keyed.keys]
  · simp [Keyed.keys]
  · simp
  · simpa using unmet

/-- A detail list is read with nothing met. -/
theorem unmet_of_readDetails {text : List Char} {details : List Detail}
    (read : readDetails text = .ok details) : ∀ detail ∈ details, detail.hit = false := by
  apply Runs.forall_of_mapM (fun detail => detail.hit = false) _ read
  intro item detail made
  unfold DetailItem.detail at made
  split at made
  · cases made
    rfl
  · cases made

/-- A segment keeps an expectation fresh. -/
theorem Fresh.addSegment {expectation next : Expectation} (fresh : expectation.Fresh)
    {segment : List Char} (read : expectation.addSegment segment = .ok next) : next.Fresh := by
  unfold Expectation.addSegment at read
  split at read
  · rename_i code after found
    obtain ⟨details, detailsRead, rfl⟩ := Runs.map_eq_ok.1 read
    exact fresh.add (String.ofList code) (unmet_of_readDetails detailsRead)
  · cases read
    exact fresh

/-- A comment is read into a fresh expectation. -/
theorem fresh_of_read {comment : List Char} {expectation : Expectation}
    (read : Expectation.read comment = .ok expectation) : expectation.Fresh :=
  Runs.keeps_of_foldlM Fresh (fun _ _ _ fresh step => fresh.addSegment step) read fresh_empty

/-- Reading a comment leaves the notes about its place unset. -/
theorem placeless_of_read {comment : List Char} {expectation : Expectation}
    (read : Expectation.read comment = .ok expectation) :
    expectation.fromCommentLine = false ∧ expectation.folded = false := by
  refine Runs.keeps_of_foldlM
    (fun state : Expectation => state.fromCommentLine = false ∧ state.folded = false)
    (fun state segment next kept step => ?_) read ⟨rfl, rfl⟩
  unfold Expectation.addSegment at step
  split at step
  · obtain ⟨details, -, rfl⟩ := Runs.map_eq_ok.1 step
    exact kept
  · cases step
    exact kept

end LintBench.Expectation
