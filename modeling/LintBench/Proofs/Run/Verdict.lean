import LintBench.Proofs.Reconciliation.Tally
import LintBench.Proofs.Report.Failures
import LintBench.Proofs.Run.LeftResult
import LintBench.Proofs.Run.Recorded

/-!
# The verdict and the messages

A run that only tests checks fails exactly if it tells a failure, and the status of the
program says the same. What is told is followed through the record of the run: each step
adds something to it, and only the failures of the checks are failures there.
-/

namespace LintBench

namespace Recorded

variable {α β : Type}

/-- Whether a recorded step, where it succeeds, ensures something of its value and of whether it has
told a failure. -/
def Ensures (recorded : Recorded α) (ensured : α → Bool → Prop) : Prop :=
  ∀ told world value later last,
    (recorded.run told).outcome world = (.ok (value, later), last) →
      ∃ failing, later.any Message.isFailure = (told.any Message.isFailure || failing) ∧
        ensured value failing

/-- A value that tells nothing ensures what holds of it. -/
theorem Ensures.pure {value : α} {ensured : α → Bool → Prop} (ensures : ensured value false) :
    Ensures (Pure.pure value) ensured := by
  intro told world given later last ran
  cases ran
  exact ⟨false, (Bool.or_false _).symm, ensures⟩

/-- What two steps tell is what either of them tells. -/
theorem Ensures.bind {recorded : Recorded α} {next : α → Recorded β} {first : α → Bool → Prop}
    {ensured : β → Bool → Prop} (before : Ensures recorded first)
    (after : ∀ value failing, first value failing →
      Ensures (next value) fun given others => ensured given (failing || others)) :
    Ensures (recorded >>= next) ensured := by
  intro told world value later last ran
  rw [StateT.run_bind] at ran
  obtain ⟨⟨middle, between⟩, reached, start, rest⟩ := Run.outcome_bind_eq_ok.1 ran
  obtain ⟨failing, tells, ensures⟩ := before _ _ _ _ _ start
  obtain ⟨others, tellsLater, ensuresLater⟩ := after _ failing ensures _ _ _ _ _ rest
  exact ⟨failing || others, by rw [tellsLater, tells, Bool.or_assoc], ensuresLater⟩

/-- A step that keeps no record leaves it as it is. -/
theorem outcome_lift_eq_ok {step : Run α} {told later : List Message} {world last : World}
    {value : α} :
    ((liftM step : Recorded α).run told).outcome world = (.ok (value, later), last) ↔
      step.outcome world = (.ok value, last) ∧ told = later := by
  have lifted : (liftM step : Recorded α).run told = (fun value => (value, told)) <$> step := by
    simp
  rw [lifted, Run.outcome_map]
  rcases step.outcome world with ⟨fault | value, later⟩
  · simp [Except.map]
  · simp only [Except.map, Prod.mk.injEq, Except.ok.injEq]
    tauto

/-- A step that tells nothing ensures what the steps after it do. -/
theorem Ensures.lift {step : Run α} {next : α → Recorded β} {ensured : β → Bool → Prop}
    (after : ∀ value, Ensures (next value) ensured) : Ensures (liftM step >>= next) ensured := by
  have silent : Ensures (liftM step) fun _ failing => failing = false := by
    intro told world value later last ran
    obtain ⟨-, rfl⟩ := outcome_lift_eq_ok.1 ran
    exact ⟨false, (Bool.or_false _).symm, rfl⟩
  refine silent.bind fun value failing nothing => ?_
  simpa only [nothing, Bool.false_or] using after value

/-- Telling messages counts the failures among them. -/
theorem Ensures.tell {printer : Printer} {messages : List Message} {next : Printer → Recorded β}
    {ensured : β → Bool → Prop}
    (after : ∀ later, Ensures (next later) fun given others =>
      ensured given (messages.any Message.isFailure || others)) :
    Ensures (tell printer messages >>= next) ensured := by
  have tells : Ensures (Recorded.tell printer messages) fun _ failing =>
      failing = messages.any Message.isFailure := by
    intro told world value later last ran
    have lifted : ((liftM (Run.tell printer messages) : Recorded Printer).run
        (told ++ messages)).outcome world = (.ok (value, later), last) := ran
    obtain ⟨-, rfl⟩ := outcome_lift_eq_ok.1 lifted
    exact ⟨_, List.any_append, rfl⟩
  refine tells.bind fun later failing same => ?_
  simpa only [same] using after later

/-! ## Which messages tell a failure -/

variable (tools : Tools)

end Recorded

namespace LeftResult

/-- An issue that no fixture expects. -/
def unexpected : Issue := { code := .ofString "A-1" }

/-- The issue with the resolved path of its file. -/
def resolved : Issue := { unexpected with position := { resolved := "/" } }

/-- A result with the issue. -/
def unexpectedContent : Text.Bytes := Text.encodeUtf8 (printedResult [unexpected])

/-- The issue is one that is written as it is. -/
theorem plain_unexpected : unexpected.IsPlain where
  code := ⟨"A-1", rfl⟩
  title := ⟨"", rfl⟩
  file := ⟨"", rfl⟩
  start := ⟨Json.isShort_of_lt_ten (by decide), Json.isShort_of_lt_ten (by decide)⟩
  stop := by simp [unexpected]

/-- The result is read. -/
theorem readLeft : (Run.readLeft (.ofNames [], unexpectedContent)).outcome
      (ended unexpectedContent header) = (.ok [resolved], ended unexpectedContent header) := by
  have path : Path.ofNames [] / Path.ofString "" = .ofNames [] := by decide
  have found : (ended unexpectedContent header).tree.resolveReported (.ofNames [])
      unexpected.position.file = .ok (some (.ofNames [])) := by
    rw [show unexpected.position.file = .ofString "" from rfl, Tree.resolveReported,
      LooseText.toString?_ofString]
    simp only [Tree.resolveIfThere, path, Tree.resolveStrict_root]
  have read : readResultBytes (ended unexpectedContent header).tree (.ofNames [])
      unexpectedContent = .ok [resolved] := by
    have plain : ∀ issue ∈ [unexpected], issue.IsPlain :=
      List.forall_mem_singleton.2 plain_unexpected
    have one : unexpected.unresolved.resolveFile (ended unexpectedContent header).tree
        (.ofNames []) = .ok resolved := by
      rw [Issue.resolveFile, show unexpected.unresolved = unexpected from rfl, found]
      rfl
    rw [unexpectedContent, readResultBytes_printedResult _ _ plain,
      readResultText_printedResult _ _ plain, List.map_cons, List.mapM_cons, ← unexpectedContent, one]
    rfl
  rw [Run.readLeft, Run.outcome_bind_of_ok (Run.outcome_get _), Run.outcome_ofExcept, read]
  rfl

/-- The suite has no fixtures. -/
theorem noFixtures : readFixtures (ended unexpectedContent header).tree config [] = .ok [] := by
  have coded : config.codeDir (ended unexpectedContent header).tree = .ok (.ofNames []) :=
    (houses unexpectedContent header).codeDir_eq
  have searched : (ended unexpectedContent header).tree.search (.ofNames []) config.files =
      .ok [] := rfl
  rw [readFixtures, coded]
  simp only [Except.mapError, bind, Except.bind, searched]
  rfl

/-- The issue and no fixtures are gathered. -/
theorem gathered : (Run.gather tools.interpret config []).outcome (world unexpectedContent header) =
    (.ok ([resolved], []), ended unexpectedContent header) := by
  have files : (Run.ofExcept id (readFixtures (ended unexpectedContent header).tree config
      [])).outcome (ended unexpectedContent header) = (.ok [], ended unexpectedContent header) :=
    Run.outcome_ofExcept_eq_ok.2 ⟨noFixtures, rfl⟩
  rw [Run.gather, Run.outcome_bind_of_ok (leave unexpectedContent header),
    Run.outcome_bind_of_ok readLeft, Run.outcome_bind_of_ok (Run.outcome_get _),
    Run.outcome_bind_of_ok files]
  rfl

end LeftResult

end LintBench
