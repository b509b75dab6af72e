import LintBench.Proofs.Reconciliation.Rounds

/-!
# Files as they age

What a fixture states stays as it is: its lines, their codes, and the details of
these. Only marks are added, and a mode that was decided is not decided again. And
marks are added in an order that keeps them coherent: a code with a detail that was
met is itself marked as raised.
-/

namespace LintBench

/-! ## Details and expectations -/

/-- A detail and the same detail later: it states the same, and if it was met it still is. -/
structure Detail.Ages (before after : Detail) : Prop where
  /-- The column is the same. -/
  column : after.column = before.column
  /-- The message is the same. -/
  message : after.message = before.message
  /-- What was met is still met. -/
  hit : before.hit = true → after.hit = true

/-- A detail can stay as it is. -/
theorem Detail.Ages.refl (detail : Detail) : detail.Ages detail := ⟨rfl, rfl, id⟩

/-- Ageing of a detail is passed on. -/
theorem Detail.Ages.trans {first second third : Detail} (early : first.Ages second)
    (late : second.Ages third) : first.Ages third where
  column := late.column.trans early.column
  message := late.message.trans early.message
  hit := late.hit ∘ early.hit

/-- What is related place by place to a row that is so related to another is related to that. -/
theorem forall₂_trans {α : Type} {related : α → α → Prop}
    (trans : ∀ {one two three}, related one two → related two three → related one three)
    {first second third : List α} (early : List.Forall₂ related first second)
    (late : List.Forall₂ related second third) : List.Forall₂ related first third := by
  induction early generalizing third with
  | nil => exact late
  | cons head _ ih =>
    cases late with
    | cons next rest => exact .cons (trans head next) (ih rest)

/-- A row and the row with one place changed are related place by place. -/
theorem forall₂_modify {α : Type} {related : α → α → Prop} {change : α → α}
    (refl : ∀ item, related item item) (changed : ∀ item, related item (change item))
    (items : List α) (index : Nat) : List.Forall₂ related items (items.modify index change) := by
  induction items generalizing index with
  | nil =>
    rw [List.modify_nil]
    exact .nil
  | cons item rest ih =>
    cases index with
    | zero => exact .cons (changed item) (List.forall₂_same.2 fun item _ => refl item)
    | succ index => exact .cons (refl item) (ih index)

/-- Details age as one of them is met. -/
theorem forall₂_ages_meetFirst (details : List Detail) (issue : Issue) :
    List.Forall₂ Detail.Ages details (meetFirst details issue) := by
  rw [meetFirst]
  split
  · rename_i index _
    have met (detail : Detail) : detail.Ages { detail with hit := true } := ⟨rfl, rfl, fun _ => rfl⟩
    exact forall₂_modify Detail.Ages.refl met details index
  · exact List.forall₂_same.2 fun detail _ => .refl detail

namespace Expectation

/-- An expectation and the same expectation later: it lists the same codes with the same details in
the same order, and what was raised or met still is. -/
structure Ages (before after : Expectation) : Prop where
  /-- The codes and their details are the same. -/
  details : List.Forall₂
    (fun own later => own.1 = later.1 ∧ List.Forall₂ Detail.Ages own.2 later.2)
    before.details after.details
  /-- A code that had a mark has one, and is raised if it was. -/
  raised : ∀ code hit, Keyed.get? before.raised code = some hit →
    ∃ later, Keyed.get? after.raised code = some later ∧ (hit = true → later = true)

/-- It can stay as it is. -/
theorem Ages.refl (expectation : Expectation) : expectation.Ages expectation where
  details := List.forall₂_same.2 fun _ _ => ⟨rfl, List.forall₂_same.2 fun detail _ => .refl detail⟩
  raised := fun _ hit found => ⟨hit, found, id⟩

/-- Ageing is passed on. -/
theorem Ages.trans {first second third : Expectation} (early : first.Ages second)
    (late : second.Ages third) : first.Ages third where
  details := by
    refine forall₂_trans ?_ early.details late.details
    intro one two three near far
    exact ⟨near.1.trans far.1, forall₂_trans (fun early late => early.trans late) near.2 far.2⟩
  raised := by
    intro code hit found
    obtain ⟨between, present, kept⟩ := early.raised code hit found
    obtain ⟨later, shown, still⟩ := late.raised code between present
    exact ⟨later, shown, still ∘ kept⟩

/-- Whether the marks of an expectation agree with each other: every code that it lists has a mark,
and a code with a detail that was met is marked as raised. -/
structure Coherent (expectation : Expectation) : Prop where
  /-- No code is listed twice. -/
  distinct : expectation.Distinct
  /-- Every code has a mark. -/
  marked : ∀ code ∈ Keyed.keys expectation.details, code ∈ Keyed.keys expectation.raised
  /-- A code with a detail that was met was raised. -/
  raised : ∀ code details, Keyed.get? expectation.details code = some details →
    (∃ detail ∈ details, detail.hit = true) → Keyed.get? expectation.raised code = some true

/-- A fresh expectation is coherent. -/
theorem Fresh.coherent {expectation : Expectation} (fresh : expectation.Fresh) :
    expectation.Coherent where
  distinct := fresh.toDistinct
  marked := fun code listed => fresh.inStep ▸ listed
  raised := by
    rintro code details found ⟨detail, member, hit⟩
    have listed := (Keyed.get?_eq_some_iff fresh.distinct code details).1 found
    have unmet : detail.hit = false := fresh.unmet _ listed detail member
    rw [hit] at unmet
    cases unmet

/-! ### Marking -/

/-- An expectation ages as a code is marked as raised. -/
theorem ages_mark (expectation : Expectation) (code : String) :
    expectation.Ages (expectation.mark code true) where
  details := (Ages.refl expectation).details
  raised := by
    intro other hit found
    have shown : Keyed.get? (expectation.mark code true).raised other =
        if code = other then some true else Keyed.get? expectation.raised other :=
      Keyed.get?_set expectation.raised code other true
    by_cases here : code = other
    · exact ⟨true, by rw [shown, if_pos here], fun _ => rfl⟩
    · exact ⟨hit, by rw [shown, if_neg here, found], id⟩

/-- An expectation that ages without a change of its details stays coherent, if no code is listed
twice then. -/
theorem Coherent.ages {before after : Expectation} (coherent : before.Coherent)
    (ages : before.Ages after) (details : after.details = before.details)
    (distinct : after.Distinct) : after.Coherent where
  distinct := distinct
  marked := by
    intro code listed
    rw [details] at listed
    obtain ⟨hit, found⟩ := (Keyed.mem_keys_iff _ _).1 (coherent.marked code listed)
    obtain ⟨later, shown, -⟩ := ages.raised code hit found
    exact (Keyed.mem_keys_iff _ _).2 ⟨later, shown⟩
  raised := by
    intro code own found met
    rw [details] at found
    obtain ⟨later, shown, kept⟩ := ages.raised code true (coherent.raised code own found met)
    rw [shown, kept rfl]

/-- An expectation ages as it is settled. -/
theorem ages_settle (expectation : Expectation) : expectation.Ages expectation.settle := by
  rw [settle_eq_foldl]
  generalize expectation.unmet.map Prod.fst = codes
  induction codes generalizing expectation with
  | nil => exact .refl expectation
  | cons code rest ih => exact (ages_mark expectation code).trans (ih (expectation.mark code true))

/-- An expectation stays coherent as it is settled. -/
theorem Coherent.settle {expectation : Expectation} (coherent : expectation.Coherent) :
    expectation.settle.Coherent :=
  coherent.ages (ages_settle expectation) (details_settle expectation) coherent.distinct.settle

/-! ### Noting -/

/-- The mark of a code after an issue. -/
theorem get?_raised_note (expectation : Expectation) (issue : Issue) (code : String) :
    Keyed.get? (expectation.note issue).raised code =
      if issue.code = .ofString code then some true else Keyed.get? expectation.raised code := by
  rw [raised_note]
  cases spelled : issue.code.toString? with
  | none => rw [if_neg (LooseText.ne_ofString spelled code)]
  | some own =>
    simp only [LooseText.eq_ofString_iff spelled, Keyed.get?_set, eq_comm]

/-- An expectation ages as it notes an issue. -/
theorem ages_note {expectation : Expectation} (distinct : expectation.Distinct) (issue : Issue) :
    expectation.Ages (expectation.note issue) where
  details := by
    rw [details_note distinct]
    refine List.forall₂_map_right_iff.2 (List.forall₂_same.2 fun (code, details) _ => ⟨rfl, ?_⟩)
    simp only
    split
    · exact forall₂_ages_meetFirst details issue
    · exact List.forall₂_same.2 fun detail _ => .refl detail
  raised := by
    intro code hit found
    rw [get?_raised_note]
    split
    · exact ⟨true, rfl, fun _ => rfl⟩
    · exact ⟨hit, found, id⟩

/-- An expectation stays coherent as it notes an issue: a detail is met only with its code. -/
theorem Coherent.note {expectation : Expectation} (coherent : expectation.Coherent)
    (issue : Issue) : (expectation.note issue).Coherent where
  distinct := coherent.distinct.note issue
  marked := by
    intro code listed
    rw [Keyed.mem_keys_iff, get?_raised_note]
    rw [Keyed.mem_keys_iff, get?_details_note coherent.distinct] at listed
    obtain ⟨_, found⟩ := listed
    obtain ⟨details, found, -⟩ := Option.map_eq_some_iff.1 found
    split
    · exact ⟨true, rfl⟩
    · exact (Keyed.mem_keys_iff _ _).1
        (coherent.marked code ((Keyed.mem_keys_iff _ _).2 ⟨details, found⟩))
  raised := by
    intro code _ found met
    rw [get?_details_note coherent.distinct] at found
    obtain ⟨details, listed, rfl⟩ := Option.map_eq_some_iff.1 found
    rw [get?_raised_note]
    by_cases own : issue.code = .ofString code
    · rw [if_pos own]
    · rw [if_neg own] at met ⊢
      exact coherent.raised code details listed met

end Expectation

/-! ## Limited codes -/

namespace CheckMode

/-- Whether the codes that a mode lists are as they can be for a file of the given name: an
undecided mode lists none, and a list is not empty, and is the name alone or has issue codes. -/
structure Limits (mode : CheckMode) (name : String) : Prop where
  /-- An undecided mode lists no codes. -/
  undecided : mode = .all → mode.codes? = none
  /-- No list of codes is empty. -/
  listed : mode.codes? ≠ some []
  /-- Codes come from the name, or they are issue codes. -/
  codes : ∀ codes, mode.codes? = some codes →
    codes = [name] ∨ ∀ code ∈ codes, isIssueCode code = true

/-- Checking all codes is a limit. -/
theorem Limits.all (name : String) : CheckMode.all.Limits name where
  undecided := fun _ => rfl
  listed := by simp [codes?]
  codes := by simp [codes?]

/-- Codes that a mode can list are listed unless there are none. -/
theorem limits_of_codes {mode : CheckMode} {name : String} {codes : List String}
    (lists : mode = .only codes ∨ mode = .ignoring codes)
    (come : codes = [name] ∨ ∀ code ∈ codes, isIssueCode code = true) : mode.Limits name := by
  have shown : mode.codes? = if codes.isEmpty then none else some codes := by
    rcases lists with rfl | rfl <;> rfl
  constructor
  · rintro rfl
    rfl
  · rw [shown]
    cases codes <;> simp
  · intro listed same
    rw [shown, Option.ite_none_left_eq_some] at same
    rwa [← Option.some.inj same.2]

/-- A directive limits a file to issue codes, or to all but some. -/
theorem limits_of_ofComment? {comment : List Char} {mode : CheckMode}
    (found : ofComment? comment = some mode) (name : String) : mode.Limits name := by
  obtain ⟨⟨keyword, asked⟩, member, same⟩ := List.exists_of_findSome?_eq_some found
  obtain ⟨-, same⟩ := Option.ite_none_right_eq_some.1 same
  have lists (codes : List String) : asked codes = .only codes ∨ asked codes = .ignoring codes := by
    simp only [directives, List.mem_cons, Prod.mk.injEq, List.not_mem_nil, or_false] at member
    rcases member with ⟨-, rfl⟩ | ⟨-, rfl⟩
    · exact .inl rfl
    · exact .inr rfl
  rw [← Option.some.inj same]
  exact limits_of_codes (lists _) (.inr fun code kept => (List.mem_filter.1 kept).2)

/-- A comment limits what was limited. -/
theorem Limits.follow {mode : CheckMode} {name : String} (limits : mode.Limits name)
    (comment : List Char) : (mode.follow comment).Limits name := by
  cases mode with
  | all =>
    rw [CheckMode.follow]
    cases found : ofComment? comment with
    | none => exact limits
    | some mode => exact limits_of_ofComment? found name
  | only codes => exact limits
  | ignoring codes => exact limits

end CheckMode

/-! ## Files -/

namespace FixtureFile

/-- A file and the same file later: it has the same lines, their expectations have aged, and its
mode is the same if it was decided. -/
structure Ages (before after : FixtureFile) : Prop where
  /-- The name is the same. -/
  name : after.name = before.name
  /-- A mode that was decided is not decided again. -/
  mode : before.mode ≠ .all → after.mode = before.mode
  /-- The lines are the same, and their expectations have aged. -/
  expectations : List.Forall₂ (fun own later => own.1 = later.1 ∧ own.2.Ages later.2)
    before.expectations after.expectations

/-- It can stay as it is. -/
theorem Ages.refl (file : FixtureFile) : file.Ages file :=
  ⟨rfl, fun _ => rfl, List.forall₂_same.2 fun _ _ => ⟨rfl, .refl _⟩⟩

/-- Ageing is passed on. -/
theorem Ages.trans {first second third : FixtureFile} (early : first.Ages second)
    (late : second.Ages third) : first.Ages third where
  name := late.name.trans early.name
  mode := by
    intro decided
    have same := early.mode decided
    rw [late.mode (same ▸ decided), same]
  expectations := by
    refine forall₂_trans ?_ early.expectations late.expectations
    intro one two three near far
    exact ⟨near.1.trans far.1, near.2.trans far.2⟩

/-- Whether the lines of a file ascend, their expectations are coherent, and its codes are limited
as they can be. -/
structure Coherent (file : FixtureFile) : Prop where
  /-- The lines ascend. -/
  ordered : LineIndex.Ordered file.expectations
  /-- The expectations are coherent. -/
  expectations : ∀ entry ∈ file.expectations, entry.2.Coherent
  /-- The codes are limited by a directive or by the name. -/
  limited : file.mode.Limits file.name

/-- A coherent file is well-formed. -/
theorem Coherent.toWellFormed {file : FixtureFile} (coherent : file.Coherent) : file.WellFormed :=
  ⟨coherent.ordered, fun entry member => (coherent.expectations entry member).distinct⟩

/-- A file that was read is coherent. -/
theorem coherent_of_ofSource {name content : String} {markers : List String} {file : FixtureFile}
    (read : ofSource name content markers = .ok file) : file.Coherent where
  ordered := (fresh_of_ofSource read).ordered
  expectations := fun entry member => ((fresh_of_ofSource read).fresh entry member).coherent
  limited := by
    refine Runs.keeps_of_foldlM (fun file => file.mode.Limits file.name) ?_ read (.all _)
    intro before (text, line) after limited step
    have directed (comment : List Char) : (if line = 1 then
        { before with mode := before.mode.follow comment } else before).mode.Limits
          (if line = 1 then { before with mode := before.mode.follow comment } else before).name := by
      split
      · exact limited.follow comment
      · exact limited
    rw [readLine] at step
    split at step
    · cases step
      exact limited
    · rename_i marker comment _
      obtain ⟨expectation, -, same⟩ := Runs.map_eq_ok.1 step
      rw [← same]
      split <;> exact directed comment

/-- A file that has become a coherent one at a later time. -/
structure Grows (before after : FixtureFile) : Prop where
  /-- It is coherent. -/
  coherent : after.Coherent
  /-- It has aged. -/
  ages : before.Ages after

/-- Growing is passed on. -/
theorem Grows.trans {first second third : FixtureFile} (early : first.Grows second)
    (late : second.Grows third) : first.Grows third :=
  ⟨late.coherent, early.ages.trans late.ages⟩

/-- A file grows as each of its expectations does. -/
theorem Coherent.grows_map {file : FixtureFile} (coherent : file.Coherent)
    (change : Nat → Expectation → Expectation)
    (each : ∀ line expectation, expectation.Coherent →
      (change line expectation).Coherent ∧ expectation.Ages (change line expectation)) :
    file.Grows { file with
      expectations := file.expectations.map fun (line, expectation) =>
        (line, change line expectation) } where
  coherent := by
    refine ⟨coherent.ordered.map_value change, fun entry member => ?_, coherent.limited⟩
    obtain ⟨⟨line, expectation⟩, listed, rfl⟩ := List.mem_map.1 member
    exact (each line expectation (coherent.expectations _ listed)).1
  ages := by
    refine ⟨rfl, fun _ => rfl, List.forall₂_map_right_iff.2 (List.forall₂_same.2 ?_)⟩
    intro (line, expectation) listed
    exact ⟨rfl, (each line expectation (coherent.expectations _ listed)).2⟩

/-- A file grows as it is settled. -/
theorem Coherent.grows_settle {file : FixtureFile} (coherent : file.Coherent) :
    file.Grows file.settle :=
  coherent.grows_map (fun _ => Expectation.settle)
    fun _ expectation own => ⟨own.settle, expectation.ages_settle⟩

/-- A file grows as it notes an issue. -/
theorem Coherent.grows_note {file : FixtureFile} (coherent : file.Coherent) (issue : Issue) :
    file.Grows (file.note issue) := by
  refine coherent.grows_map (fun line expectation =>
    if issue.isOn line then expectation.note issue else expectation) fun line expectation own => ?_
  split
  · exact ⟨own.note issue, Expectation.ages_note own.distinct issue⟩
  · exact ⟨own, .refl expectation⟩

/-- A file grows as it notes a run of issues. -/
theorem Coherent.grows_foldl_note {file : FixtureFile} (coherent : file.Coherent)
    (issues : List Issue) : file.Grows (issues.foldl note file) := by
  induction issues generalizing file with
  | nil => exact ⟨coherent, .refl file⟩
  | cons issue rest ih =>
    have first := coherent.grows_note issue
    exact first.trans (ih first.coherent)

/-- A file grows as its mode is decided. -/
theorem Coherent.grows_mode {file : FixtureFile} (coherent : file.Coherent) {mode : CheckMode}
    (decided : file.mode ≠ .all → mode = file.mode) (limited : mode.Limits file.name) :
    file.Grows { file with mode } where
  coherent := ⟨coherent.ordered, coherent.expectations, limited⟩
  ages := ⟨rfl, decided, (Ages.refl file).expectations⟩

/-- A file grows as it is promoted. -/
theorem Coherent.grows_promote {file : FixtureFile} (coherent : file.Coherent)
    (codes : List LooseText) : file.Grows (file.promote codes) := by
  rw [promote_eq]
  refine coherent.grows_mode (fun decided => ?_) ?_
  · rw [promotedMode, if_neg fun promoted => decided promoted.1]
  · rw [promotedMode]
    split
    · exact CheckMode.limits_of_codes (.inl rfl) (.inl rfl)
    · exact coherent.limited

/-- A file whose mode follows a comment. -/
def follow (file : FixtureFile) (comment : List Char) : FixtureFile :=
  { file with mode := file.mode.follow comment }

/-- A file grows as it follows a comment. -/
theorem Coherent.grows_follow {file : FixtureFile} (coherent : file.Coherent)
    (comment : List Char) : file.Grows (file.follow comment) := by
  refine coherent.grows_mode (fun decided => ?_) (coherent.limited.follow comment)
  cases same : file.mode with
  | all => exact absurd same decided
  | only codes => rfl
  | ignoring codes => rfl

end FixtureFile

/-- The files of a reconciliation grow. -/
theorem grows_reconcile {files : Keyed FixtureFile} (excluded included : List String)
    (issues : List Issue) (distinct : (Keyed.keys files).Nodup)
    (coherent : ∀ entry ∈ files, entry.2.Coherent) {path : String} {file : FixtureFile}
    (found : Keyed.get? files path = some file) :
    ∃ later, Keyed.get? (reconcile files excluded included issues).files path = some later ∧
      file.Grows later := by
  have wellFormed : ∀ entry ∈ files, entry.2.WellFormed :=
    fun entry member => (coherent entry member).toWellFormed
  have own : file.Coherent := coherent _ ((Keyed.get?_eq_some_iff distinct path file).1 found)
  have promoted := own.grows_promote (issueCodes issues)
  have noted := promoted.trans
    (promoted.coherent.grows_foldl_note (issuesAt path (countedIssues excluded issues)))
  rw [get?_files_reconcile excluded included issues distinct wellFormed, found]
  refine ⟨_, rfl, ?_⟩
  simp only
  split
  · exact noted.trans noted.coherent.grows_settle
  · exact noted

end LintBench
