import LintBench.Proofs.Expectation.Merging

/-!
# Merging as a monoid

Of the orders in which a row of expectations can be merged, none matters for what
comes out, and an expectation that expects nothing adds nothing on either side.
Which of two expectations takes in the other decides where the codes and the
details of a code stand, and which of the two places is kept; everything else is
the same.
-/

namespace LintBench.Expectation

/-- Whether every expected code has a mark. -/
def AllMarked (expectation : Expectation) : Prop :=
  ∀ code ∈ Keyed.keys expectation.details, code ∈ Keyed.keys expectation.raised

/-- Whether two expectations expect the same and have the same marks, in whatever order the codes
stand, and the details of each code. -/
structure SameUpToOrder (one other : Expectation) : Prop where
  /-- The same codes are expected. -/
  codes : (Keyed.keys one.details).Perm (Keyed.keys other.details)
  /-- Each code has the same details. -/
  details : ∀ code, Option.Rel List.Perm (Keyed.get? one.details code)
    (Keyed.get? other.details code)
  /-- The same codes have marks. -/
  marked : (Keyed.keys one.raised).Perm (Keyed.keys other.raised)
  /-- Each code has the same mark. -/
  raised : ∀ code, Keyed.get? one.raised code = Keyed.get? other.raised code

variable {first second third : Expectation}

/-- What is taken in by an expectation that expects nothing is all that comes out, but for its
place. -/
theorem empty_merge (distinct : first.Distinct) :
    empty.merge first = { first with fromCommentLine := false, folded := false } := by
  have details : (empty.merge first).details = first.details :=
    Keyed.combine_nil_left _ _ List.nil_append distinct.details
  have raised : (empty.merge first).raised = first.raised :=
    Keyed.combine_nil_left _ _ Bool.false_or distinct.raised
  simp only [merge] at details raised ⊢
  rw [details, raised]
  rfl

/-- A merge of expectations whose codes all have marks is one. -/
theorem AllMarked.merge (marked : first.AllMarked) (markedOther : second.AllMarked)
    (distinct : first.Distinct) (distinctOther : second.Distinct) :
    (first.merge second).AllMarked := by
  intro code listed
  rw [merge_details, Keyed.mem_keys_combine _ _ distinct.details distinctOther.details] at listed
  rw [merge_raised, Keyed.mem_keys_combine _ _ distinct.raised distinctOther.raised]
  exact listed.imp (marked code) (markedOther code)

/-- Which of two expectations takes in the other matters for the order alone. -/
theorem sameUpToOrder_merge (distinct : first.Distinct) (distinctOther : second.Distinct) :
    (first.merge second).SameUpToOrder (second.merge first) where
  codes := Keyed.perm_keys_combine _ _ distinct.details distinctOther.details
  details code := Keyed.rel_get?_combine (· ++ ·) [] List.Perm.refl
    (fun _ _ => List.perm_append_comm) List.nil_append distinct.details distinctOther.details code
  marked := Keyed.perm_keys_combine _ _ distinct.raised distinctOther.raised
  raised code := by
    have same {mark other : Option Bool} (alike : Option.Rel Eq mark other) : mark = other := by
      cases alike with
      | none => rfl
      | some equal => rw [equal]
    exact same (Keyed.rel_get?_combine _ _ (fun _ => rfl) Bool.or_comm Bool.false_or distinct.raised
      distinctOther.raised code)

/-- Merging is associative, and the empty expectation is neutral on both sides; the place is that of
the expectation that takes the other one in. If every code has its mark on both sides, it has after
the merge. Merging the other way gives the same, up to the order. -/
theorem merge_forms_monoid (distinctFirst : first.Distinct) (distinctSecond : second.Distinct)
    (distinctThird : third.Distinct) :
    (first.merge second).merge third = first.merge (second.merge third) ∧
      first.merge empty = first ∧
      empty.merge first = { first with fromCommentLine := false, folded := false } ∧
      (first.merge second).fromCommentLine = first.fromCommentLine ∧
      (first.merge second).folded = first.folded ∧
      (first.AllMarked → second.AllMarked → (first.merge second).AllMarked) ∧
      (first.merge second).SameUpToOrder (second.merge first) := by
  have assoc := merge_merge distinctFirst distinctSecond distinctThird
  have neutral := empty_merge distinctFirst
  have marks (one : first.AllMarked) (other : second.AllMarked) : (first.merge second).AllMarked :=
    one.merge other distinctFirst distinctSecond
  have order := sameUpToOrder_merge distinctFirst distinctSecond
  exact ⟨assoc, merge_empty first, neutral, rfl, rfl, marks, order⟩

/-- An expectation of two codes, one of which was raised. -/
def twoCodes : Expectation :=
  { details := [("A-1", [{ column := 3, hit := true }]), ("B-1", [])]
    raised := [("A-1", true), ("B-1", false)]
    fromCommentLine := true }

/-- An expectation that has one code in common with it, and a mark of a code that it does not
expect. -/
def otherCodes : Expectation :=
  { details := [("C-1", []), ("B-1", [{ column := 2 }])]
    raised := [("D-1", true), ("B-1", true), ("C-1", false)] }

/-- An expectation without marks. -/
def unmarkedCode : Expectation :=
  { details := [("B-1", [{ message := "again" }])], folded := true }

/-- Expectations that overlap, merged in every way. -/
theorem merge_forms_monoid_overlapping :
    (twoCodes.Distinct ∧ otherCodes.Distinct ∧ unmarkedCode.Distinct) ∧
      (twoCodes.merge otherCodes).merge unmarkedCode =
        twoCodes.merge (otherCodes.merge unmarkedCode) ∧
      twoCodes.merge empty = twoCodes ∧
      empty.merge twoCodes = { twoCodes with fromCommentLine := false, folded := false } ∧
      (twoCodes.merge otherCodes).fromCommentLine = true ∧
      (twoCodes.merge otherCodes).folded = false ∧
      (twoCodes.merge otherCodes).AllMarked ∧
      (twoCodes.merge otherCodes).SameUpToOrder (otherCodes.merge twoCodes) := by
  have distinct : twoCodes.Distinct := ⟨by decide, by decide⟩
  have distinctOther : otherCodes.Distinct := ⟨by decide, by decide⟩
  have distinctUnmarked : unmarkedCode.Distinct := ⟨by decide, by decide⟩
  have marked : twoCodes.AllMarked := by unfold AllMarked; decide
  have markedOther : otherCodes.AllMarked := by unfold AllMarked; decide
  obtain ⟨assoc, right, left, place, folded, marks, order⟩ :=
    merge_forms_monoid distinct distinctOther distinctUnmarked
  exact ⟨⟨distinct, distinctOther, distinctUnmarked⟩, assoc, right, left, place, folded,
    marks marked markedOther, order⟩

end LintBench.Expectation
