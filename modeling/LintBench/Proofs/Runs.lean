import Mathlib.Data.List.Forall2
import Mathlib.Tactic.Common

/-!
# Runs that can fail

What is known of a run that came to its end: each step came to its end, and what
every step keeps holds at the end if it held at the start.
-/

namespace LintBench.Runs

variable {ε α β : Type}

/-- Two computations one after the other succeed exactly when both do. -/
theorem bind_eq_ok {first : Except ε α} {next : α → Except ε β} {result : β} :
    first >>= next = .ok result ↔ ∃ value, first = .ok value ∧ next value = .ok result := by
  cases first with
  | error fault => simp [bind, Except.bind]
  | ok value => simp [bind, Except.bind]

/-- Two computations one after the other fail exactly when the first one does, or the second one
after it. -/
theorem bind_eq_error {first : Except ε α} {next : α → Except ε β} {fault : ε} :
    first >>= next = .error fault ↔
      first = .error fault ∨ ∃ value, first = .ok value ∧ next value = .error fault := by
  cases first with
  | error fault => simp [bind, Except.bind]
  | ok value => simp [bind, Except.bind]

/-- A changed result comes from a result. -/
theorem map_eq_ok {computation : Except ε α} {change : α → β} {result : β} :
    computation.map change = .ok result ↔
      ∃ value, computation = .ok value ∧ change value = result := by
  cases computation with
  | error fault => simp [Except.map]
  | ok value => simp [Except.map]

/-- A computation gives a result exactly if it does not fail. -/
theorem exists_ok_iff {computation : Except ε α} :
    (∃ value, computation = .ok value) ↔ ¬ ∃ fault, computation = .error fault := by
  cases computation with
  | error fault => exact iff_of_false (by simp) (fun none => none ⟨fault, rfl⟩)
  | ok value => simp

/-- Wrapping faults leaves results. -/
@[simp] theorem mapError_eq_ok {ε' : Type} {computation : Except ε α} {wrap : ε → ε'} {result : α} :
    computation.mapError wrap = .ok result ↔ computation = .ok result := by
  cases computation <;> simp [Except.mapError]

/-- What each element's computation ensures of its result holds of every result of a row. -/
theorem forall_of_mapM {compute : α → Except ε β} (Ensured : β → Prop)
    (ensure : ∀ item result, compute item = .ok result → Ensured result) {items : List α}
    {results : List β} (run : items.mapM compute = .ok results) :
    ∀ result ∈ results, Ensured result := by
  induction items generalizing results with
  | nil =>
    cases run
    simp
  | cons item rest ih =>
    rw [List.mapM_cons] at run
    obtain ⟨first, firstRun, later⟩ := bind_eq_ok.1 run
    obtain ⟨others, otherRuns, same⟩ := bind_eq_ok.1 later
    cases same
    intro result member
    rcases List.mem_cons.1 member with rfl | member
    · exact ensure item _ firstRun
    · exact ih otherRuns result member

/-- What every step keeps holds at the end of a run if it held at the start. -/
theorem keeps_of_foldlM {step : β → α → Except ε β} (Kept : β → Prop)
    (keep : ∀ state item next, Kept state → step state item = .ok next → Kept next)
    {items : List α} {start last : β} (run : items.foldlM step start = .ok last)
    (first : Kept start) : Kept last := by
  induction items generalizing start with
  | nil =>
    cases run
    exact first
  | cons item rest ih =>
    rw [List.foldlM_cons] at run
    obtain ⟨next, stepped, later⟩ := bind_eq_ok.1 run
    exact ih later (keep start item next first stepped)

/-- What the step of one item brings about, and every step keeps, holds at the end of a run. -/
theorem holds_of_foldlM {step : β → α → Except ε β} (Held : β → Prop) {item : α}
    (reach : ∀ state next, step state item = .ok next → Held next)
    (keep : ∀ state other next, Held state → step state other = .ok next → Held next)
    {items : List α} {start last : β} (run : items.foldlM step start = .ok last)
    (member : item ∈ items) : Held last := by
  obtain ⟨front, rest, rfl⟩ := List.append_of_mem member
  rw [List.foldlM_append] at run
  obtain ⟨middle, -, later⟩ := bind_eq_ok.1 run
  rw [List.foldlM_cons] at later
  obtain ⟨next, stepped, others⟩ := bind_eq_ok.1 later
  exact keeps_of_foldlM Held keep others (reach middle next stepped)

/-- A row of computations depends only on what they are for its elements. -/
theorem mapM_congr {compute other : α → Except ε β} {items : List α}
    (same : ∀ item ∈ items, compute item = other item) :
    items.mapM compute = items.mapM other := by
  induction items with
  | nil => rfl
  | cons item rest ih =>
    obtain ⟨first, others⟩ := List.forall_mem_cons.1 same
    rw [List.mapM_cons, List.mapM_cons, first, ih others]

/-- Filtering depends only on what the test says of the elements. -/
theorem filterM_congr {test other : α → Except ε Bool} {items : List α}
    (same : ∀ item ∈ items, test item = other item) :
    items.filterM test = items.filterM other := by
  have along (kept : List α) : items.filterAuxM test kept = items.filterAuxM other kept := by
    induction items generalizing kept with
    | nil => rfl
    | cons item rest ih =>
      obtain ⟨first, others⟩ := List.forall_mem_cons.1 same
      simp only [List.filterAuxM, first, ih others]
  rw [List.filterM, List.filterM, along]

/-- A filter puts the elements that pass the test to those that it has kept so far. -/
theorem mem_of_filterAuxM {test : α → Except ε Bool} {items before after : List α}
    (run : items.filterAuxM test before = .ok after) {item : α} :
    item ∈ after ↔ item ∈ before ∨ item ∈ items ∧ test item = .ok true := by
  induction items generalizing before with
  | nil =>
    cases run
    simp
  | cons first rest ih =>
    rw [List.filterAuxM] at run
    obtain ⟨passes, tested, later⟩ := bind_eq_ok.1 run
    rw [ih later, List.mem_cons]
    by_cases here : item = first
    · subst here
      cases passes <;> simp [tested]
    · cases passes <;> simp [here]

/-- What a filter that succeeds keeps are the elements that pass the test. -/
theorem mem_of_filterM {test : α → Except ε Bool} {items kept : List α}
    (run : items.filterM test = .ok kept) {item : α} :
    item ∈ kept ↔ item ∈ items ∧ test item = .ok true := by
  obtain ⟨reversed, ran, same⟩ := bind_eq_ok.1 run
  cases same
  rw [List.mem_reverse, mem_of_filterAuxM ran]
  simp

/-- A row of actions that all succeed succeeds. -/
theorem forM_eq_ok {act : α → Except ε PUnit} {items : List α}
    (each : ∀ item ∈ items, act item = .ok ⟨⟩) : items.forM act = .ok ⟨⟩ := by
  induction items with
  | nil => rfl
  | cons item rest ih =>
    obtain ⟨first, others⟩ := List.forall_mem_cons.1 each
    rw [List.forM, first]
    exact ih others

/-- The results of a row are those of its elements' computations. -/
theorem mem_of_mapM {compute : α → Except ε β} {items : List α} {results : List β}
    (run : items.mapM compute = .ok results) {result : β} :
    result ∈ results ↔ ∃ item ∈ items, compute item = .ok result := by
  induction items generalizing results with
  | nil =>
    cases run
    simp
  | cons item rest ih =>
    rw [List.mapM_cons] at run
    obtain ⟨first, firstRun, later⟩ := bind_eq_ok.1 run
    obtain ⟨others, otherRuns, same⟩ := bind_eq_ok.1 later
    cases same
    simp [ih otherRuns, firstRun, eq_comm]

/-- Every computation of a row that succeeds does. -/
theorem exists_of_mapM {compute : α → Except ε β} {items : List α} {results : List β}
    (run : items.mapM compute = .ok results) : ∀ item ∈ items, ∃ result, compute item = .ok result := by
  induction items generalizing results with
  | nil => simp
  | cons item rest ih =>
    rw [List.mapM_cons] at run
    obtain ⟨first, firstRun, later⟩ := bind_eq_ok.1 run
    obtain ⟨others, otherRuns, -⟩ := bind_eq_ok.1 later
    exact List.forall_mem_cons.2 ⟨⟨first, firstRun⟩, ih otherRuns⟩

/-- A row of computations succeeds with the results of its elements' computations, in their order.
-/
theorem mapM_eq_ok_iff {compute : α → Except ε β} {items : List α} {results : List β} :
    items.mapM compute = .ok results ↔
      List.Forall₂ (fun item result => compute item = .ok result) items results := by
  induction items generalizing results with
  | nil =>
    constructor
    · rintro ⟨⟩
      exact .nil
    · rintro ⟨⟩
      rfl
  | cons item rest ih =>
    rw [List.mapM_cons, bind_eq_ok]
    constructor
    · rintro ⟨first, ran, later⟩
      obtain ⟨others, ranOthers, same⟩ := bind_eq_ok.1 later
      cases same
      exact .cons ran (ih.1 ranOthers)
    · rintro (_ | ⟨ran, others⟩)
      exact ⟨_, ran, bind_eq_ok.2 ⟨_, ih.2 others, rfl⟩⟩

/-- A row of computations succeeds if each of them does. -/
theorem exists_mapM {compute : α → Except ε β} {items : List α}
    (each : ∀ item ∈ items, ∃ result, compute item = .ok result) :
    ∃ results, items.mapM compute = .ok results := by
  induction items with
  | nil => exact ⟨[], rfl⟩
  | cons item rest ih =>
    obtain ⟨⟨first, ran⟩, others⟩ := List.forall_mem_cons.1 each
    obtain ⟨results, ranOthers⟩ := ih others
    refine ⟨first :: results, ?_⟩
    rw [List.mapM_cons, ran, ranOthers]
    rfl

/-- A row of computations fails as the first one of them does that fails. -/
theorem mapM_eq_error {compute : α → Except ε β} {items : List α} {fault : ε} :
    items.mapM compute = .error fault ↔
      ∃ before item after, items = before ++ item :: after ∧
        (∀ other ∈ before, ∃ result, compute other = .ok result) ∧
        compute item = .error fault := by
  induction items with
  | nil =>
    constructor
    · intro failed
      cases failed
    · rintro ⟨before, item, after, split, -⟩
      simp at split
  | cons first rest ih =>
    rw [List.mapM_cons, bind_eq_error]
    constructor
    · rintro (failed | ⟨value, ran, later⟩)
      · exact ⟨[], first, rest, rfl, by simp, failed⟩
      · obtain failed | ⟨_, -, done⟩ := bind_eq_error.1 later
        · obtain ⟨before, item, after, rfl, fine, here⟩ := ih.1 failed
          exact ⟨first :: before, item, after, rfl,
            List.forall_mem_cons.2 ⟨⟨value, ran⟩, fine⟩, here⟩
        · cases done
    · rintro ⟨before, item, after, split, fine, here⟩
      cases before with
      | nil =>
        cases split
        exact .inl here
      | cons head others =>
        cases split
        obtain ⟨⟨value, ran⟩, fineOthers⟩ := List.forall_mem_cons.1 fine
        refine .inr ⟨value, ran, bind_eq_error.2 (.inl ?_)⟩
        exact ih.2 ⟨others, item, after, rfl, fineOthers, here⟩

/-- A row of computations fails exactly if one of them does. -/
theorem mapM_fails_iff {compute : α → Except ε β} {items : List α} :
    (∃ fault, items.mapM compute = .error fault) ↔
      ∃ item ∈ items, ∃ fault, compute item = .error fault := by
  induction items with
  | nil =>
    constructor
    · rintro ⟨fault, ⟨⟩⟩
    · simp
  | cons item rest ih =>
    rw [List.exists_mem_cons_iff, ← ih, List.mapM_cons]
    cases compute item with
    | error fault => simp [bind, Except.bind]
    | ok value => cases rest.mapM compute <;> simp [bind, Except.bind, pure, Except.pure]

/-- A run whose steps fail whatever was reached before them fails exactly if one of its steps does.
-/
theorem foldlM_fails_iff {step : β → α → Except ε β} {Fails : α → Prop}
    (fails : ∀ state item, (∃ fault, step state item = .error fault) ↔ Fails item)
    {items : List α} {start : β} :
    (∃ fault, items.foldlM step start = .error fault) ↔ ∃ item ∈ items, Fails item := by
  induction items generalizing start with
  | nil =>
    constructor
    · rintro ⟨fault, ⟨⟩⟩
    · simp
  | cons item rest ih =>
    rw [List.exists_mem_cons_iff, ← fails start item, List.foldlM_cons]
    cases stepped : step start item with
    | error fault => simp [bind, Except.bind]
    | ok next => simpa [bind, Except.bind] using ih

/-- Every test of a filter that succeeds does. -/
theorem exists_of_filterM {test : α → Except ε Bool} {items kept : List α}
    (run : items.filterM test = .ok kept) : ∀ item ∈ items, ∃ passes, test item = .ok passes := by
  obtain ⟨reversed, ran, -⟩ := bind_eq_ok.1 run
  clear run
  generalize ([] : List α) = before at ran
  induction items generalizing before with
  | nil => simp
  | cons item rest ih =>
    rw [List.filterAuxM] at ran
    obtain ⟨passes, tested, later⟩ := bind_eq_ok.1 ran
    exact List.forall_mem_cons.2 ⟨⟨passes, tested⟩, ih _ later⟩

/-! ## Ways to fail -/

/-- Whether a computation fails in no other ways than those that are said. -/
def FailsOnly (Said : ε → Prop) (computation : Except ε α) : Prop :=
  ∀ fault, computation = .error fault → Said fault

section FailsOnly

variable {Said : ε → Prop}

/-- A value is no failure. -/
theorem FailsOnly.ok (value : α) : FailsOnly Said (.ok value : Except ε α) :=
  fun _ failed => by cases failed

/-- A fault of a kind is a failure of that kind. -/
theorem FailsOnly.error {fault : ε} (said : Said fault) :
    FailsOnly Said (.error fault : Except ε α) :=
  fun _ failed => by
    cases failed
    exact said

/-- Two computations in a row fail only as both do. -/
theorem FailsOnly.bind {first : Except ε α} {next : α → Except ε β} (one : FailsOnly Said first)
    (two : ∀ value, FailsOnly Said (next value)) : FailsOnly Said (first >>= next) := by
  intro fault failed
  rcases bind_eq_error.1 failed with here | ⟨value, -, later⟩
  · exact one fault here
  · exact two value fault later

/-- Changing the value changes no failure. -/
theorem FailsOnly.map {computation : Except ε α} (change : α → β)
    (only : FailsOnly Said computation) : FailsOnly Said (computation.map change) := by
  cases computation with
  | error fault => exact .error (only fault rfl)
  | ok value => exact .ok (change value)

/-- What is said of every wrapped fault is said of those that occur. -/
theorem FailsOnly.mapError {ε' : Type} {wrap : ε' → ε} (said : ∀ fault, Said (wrap fault))
    (computation : Except ε' α) : FailsOnly Said (computation.mapError wrap) := by
  cases computation with
  | error fault => exact .error (said fault)
  | ok value => exact .ok value

/-- Computing for each item fails only as one of them does. -/
theorem FailsOnly.mapM {compute : α → Except ε β} (items : List α)
    (each : ∀ item, FailsOnly Said (compute item)) : FailsOnly Said (items.mapM compute) := by
  intro fault failed
  obtain ⟨_, item, _, -, -, here⟩ := mapM_eq_error.1 failed
  exact each item fault here

/-- Acting for each item fails only as one of them does. -/
theorem FailsOnly.forM {act : α → Except ε PUnit} (items : List α)
    (each : ∀ item, FailsOnly Said (act item)) : FailsOnly Said (items.forM act) := by
  induction items with
  | nil => exact .ok _
  | cons item rest ih => exact .bind (each item) fun _ => ih

/-- Testing each item fails only as one of them does. -/
theorem FailsOnly.filterM {test : α → Except ε Bool} (items : List α)
    (each : ∀ item, FailsOnly Said (test item)) : FailsOnly Said (items.filterM test) := by
  have along (kept : List α) : FailsOnly Said (items.filterAuxM test kept) := by
    induction items generalizing kept with
    | nil => exact .ok kept
    | cons item rest ih => exact .bind (each item) fun passes => ih _
  exact .bind (along []) fun reversed => .ok reversed.reverse

end FailsOnly

end LintBench.Runs
