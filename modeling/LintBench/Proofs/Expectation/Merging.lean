import LintBench.Expectation.Basic
import LintBench.Proofs.Keyed

/-!
# Merging expectations

Merging combines the details and the marks of two expectations code by code. It
does not matter which of two neighbouring merges is made first, so a pile of
expectations has one merge, and that states what some member of the pile states.
-/

namespace LintBench.Expectation

/-- No code is listed twice, neither with details nor with a mark. -/
structure Distinct (expectation : Expectation) : Prop where
  /-- Every code has one list of details. -/
  details : (Keyed.keys expectation.details).Nodup
  /-- Every code has one mark. -/
  raised : (Keyed.keys expectation.raised).Nodup

/-- An expectation as a fixture states it: nothing was raised yet, and every code with details has
its mark at the same place. -/
structure Fresh (expectation : Expectation) : Prop where
  /-- Every code is listed once. -/
  distinct : (Keyed.keys expectation.details).Nodup
  /-- The marks are in step with the details. -/
  inStep : Keyed.keys expectation.raised = Keyed.keys expectation.details
  /-- No code was raised. -/
  unraised : ∀ entry ∈ expectation.raised, entry.2 = false
  /-- No detail was met. -/
  unmet : ∀ entry ∈ expectation.details, ∀ detail ∈ entry.2, detail.hit = false

/-- A fresh expectation lists no code twice. -/
theorem Fresh.toDistinct {expectation : Expectation} (fresh : expectation.Fresh) :
    expectation.Distinct := ⟨fresh.distinct, fresh.inStep ▸ fresh.distinct⟩

/-- The details of a merge are the combined details. -/
theorem merge_details (expectation other : Expectation) :
    (expectation.merge other).details =
      Keyed.combine (· ++ ·) [] expectation.details other.details := rfl

/-- The marks of a merge are the combined marks. -/
theorem merge_raised (expectation other : Expectation) :
    (expectation.merge other).raised =
      Keyed.combine (· || ·) false expectation.raised other.raised := rfl

/-- Adding details of a code is merging an expectation of that code alone. -/
theorem add_eq_merge (expectation : Expectation) (code : String) (details : List Detail) :
    expectation.add code details =
      expectation.merge { details := [(code, details)], raised := [(code, false)] } := by
  simp [add, merge, Keyed.setDefault]

/-- A merge lists no code twice. -/
theorem Distinct.merge {expectation : Expectation} (distinct : expectation.Distinct)
    (other : Expectation) : (expectation.merge other).Distinct :=
  ⟨Keyed.nodup_keys_combine _ _ distinct.details other.details,
    Keyed.nodup_keys_combine _ _ distinct.raised other.raised⟩

/-- The merge of a pile lists no code twice. -/
theorem Distinct.foldl_merge {top : Expectation} (distinct : top.Distinct)
    (pile : List Expectation) : (pile.foldl Expectation.merge top).Distinct := by
  induction pile generalizing top with
  | nil => exact distinct
  | cons member rest ih => exact ih (distinct.merge member)

/-- It does not matter which of two neighbouring merges is made first. -/
theorem merge_merge {first second third : Expectation} (distinctFirst : first.Distinct)
    (distinctSecond : second.Distinct) (distinctThird : third.Distinct) :
    (first.merge second).merge third = first.merge (second.merge third) := by
  have details : ((first.merge second).merge third).details =
      (first.merge (second.merge third)).details :=
    Keyed.combine_assoc _ _ List.append_assoc List.nil_append distinctFirst.details
      distinctSecond.details distinctThird.details
  have raised : ((first.merge second).merge third).raised =
      (first.merge (second.merge third)).raised :=
    Keyed.combine_assoc _ _ Bool.or_assoc Bool.false_or distinctFirst.raised
      distinctSecond.raised distinctThird.raised
  simp only [merge] at details raised ⊢
  rw [details, raised]

/-- Merging what a pile was merged into is merging the pile one by one. -/
theorem merge_foldl_merge {top next : Expectation} {pile : List Expectation}
    (distinctTop : top.Distinct) (distinctNext : next.Distinct)
    (distinctPile : ∀ member ∈ pile, member.Distinct) :
    top.merge (pile.foldl merge next) = (next :: pile).foldl merge top := by
  induction pile generalizing next with
  | nil => rfl
  | cons member rest ih =>
    simp only [List.forall_mem_cons] at distinctPile
    rw [List.foldl_cons, ih (distinctNext.merge member) distinctPile.2, List.foldl_cons,
      List.foldl_cons, List.foldl_cons,
      merge_merge distinctTop distinctNext distinctPile.1]

/-- Fresh expectations merge into a fresh one. -/
theorem Fresh.merge {expectation other : Expectation} (fresh : expectation.Fresh)
    (freshOther : other.Fresh) : (expectation.merge other).Fresh where
  distinct := Keyed.nodup_keys_combine _ _ fresh.distinct other.details
  inStep := by
    rw [merge_raised, merge_details,
      Keyed.keys_combine _ _ fresh.toDistinct.raised freshOther.toDistinct.raised,
      Keyed.keys_combine _ _ fresh.distinct freshOther.distinct, fresh.inStep, freshOther.inStep]
  unraised := by
    refine Keyed.forall_combine (P := (· = false)) (· || ·) false rfl
      (fun mark otherMark own others => ?_) fresh.unraised freshOther.unraised
    rw [own, others]
    rfl
  unmet := by
    refine Keyed.forall_combine
      (P := fun details : List Detail => ∀ detail ∈ details, detail.hit = false)
      (· ++ ·) [] (by simp) (fun details otherDetails own others => ?_) fresh.unmet freshOther.unmet
    exact List.forall_mem_append.2 ⟨own, others⟩

/-- A pile of fresh expectations merges into a fresh one. -/
theorem Fresh.foldl_merge {top : Expectation} {pile : List Expectation} (fresh : top.Fresh)
    (freshPile : ∀ member ∈ pile, member.Fresh) : (pile.foldl Expectation.merge top).Fresh := by
  induction pile generalizing top with
  | nil => exact fresh
  | cons member rest ih =>
    simp only [List.forall_mem_cons] at freshPile
    exact ih (fresh.merge freshPile.1) freshPile.2

/-- What an expectation states of a code: that it is expected, or one of its details. -/
def States (expectation : Expectation) (code : String) (part : Option Detail) : Prop :=
  ∃ details, Keyed.get? expectation.details code = some details ∧ ∀ detail ∈ part, detail ∈ details

/-- A merge states what either side states. -/
theorem states_merge {expectation other : Expectation} (distinct : other.Distinct) (code : String)
    (part : Option Detail) :
    (expectation.merge other).States code part ↔
      expectation.States code part ∨ other.States code part := by
  unfold States
  rw [merge_details, Keyed.get?_combine _ _ _ distinct.details]
  cases added : Keyed.get? other.details code with
  | none => simp
  | some details =>
    cases present : Keyed.get? expectation.details code <;> cases part <;> simp

/-- The merge of a pile states what some member of the pile states. -/
theorem states_foldl_merge {top : Expectation} {pile : List Expectation}
    (distinct : ∀ member ∈ pile, member.Distinct) (code : String) (part : Option Detail) :
    (pile.foldl merge top).States code part ↔
      ∃ member ∈ top :: pile, member.States code part := by
  induction pile generalizing top with
  | nil => simp
  | cons member rest ih =>
    simp only [List.forall_mem_cons] at distinct
    rw [List.foldl_cons, ih distinct.2]
    simp only [List.exists_mem_cons_iff, states_merge distinct.1, or_assoc]

end LintBench.Expectation
