import LintBench.Proofs.Expectation.Merging
import LintBench.Reconciliation

/-!
# Marks of an expectation

What noting reported issues does to the marks of an expectation, and what is then
missing of it. An issue meets the first detail that accepts it, whether that was
met before or not, so the marks say which issues were noted and not in which order.
-/

namespace LintBench

/-- A text is a string exactly when it is that string's loose text. -/
theorem LooseText.toString?_eq_some_iff {text : LooseText} {string : String} :
    text.toString? = some string ↔ text = .ofString string := by
  constructor
  · intro found
    have letters : ∀ (letters : List Text.Letter) (chars : List Char),
        letters.mapM Text.Letter.char? = some chars → letters = Text.lettersOf chars := by
      intro letters
      induction letters with
      | nil =>
        intro chars same
        cases same
        rfl
      | cons letter rest ih =>
        intro chars same
        cases letter with
        | half index => simp [Text.Letter.char?] at same
        | char c =>
          simp only [List.mapM_cons, Text.Letter.char?, Option.pure_def, Option.bind_eq_bind,
            Option.bind_some, Option.bind_eq_some_iff, Option.some.injEq] at same
          obtain ⟨others, spelled, rfl⟩ := same
          rw [ih others spelled]
          rfl
    obtain ⟨chars, spelled, rfl⟩ := Option.map_eq_some_iff.1 found
    obtain ⟨own⟩ := text
    rw [LooseText.ofString, String.toList_ofList, letters own chars spelled]
  · rintro rfl
    exact toString?_ofString string

/-- A text that is a string is that string's loose text and no other. -/
theorem LooseText.eq_ofString_iff {text : LooseText} {own : String}
    (spelled : text.toString? = some own) (code : String) :
    text = .ofString code ↔ code = own := by
  rw [toString?_eq_some_iff.1 spelled]
  exact ⟨fun equal => (ofString_injective equal).symm, fun equal => equal ▸ rfl⟩

/-- A text that is no string is no string's loose text. -/
theorem LooseText.ne_ofString {text : LooseText} (spelled : text.toString? = none)
    (code : String) : text ≠ .ofString code := by
  intro same
  rw [toString?_eq_some_iff.2 same] at spelled
  cases spelled

/-- Whether a detail accepts an issue. -/
def Issue.fits (issue : Issue) (detail : Detail) : Bool :=
  detail.accepts issue.position.start.column issue.title

/-- A detail as the fixture states it, whether it was met or not. -/
def Detail.unhit (detail : Detail) : Detail := { detail with hit := false }

/-- Details after an issue: the first one that accepts it is met. -/
def meetFirst (details : List Detail) (issue : Issue) : List Detail :=
  match details.findIdx? issue.fits with
  | some index => details.modify index fun detail => { detail with hit := true }
  | none => details

/-- Meeting a detail changes nothing but one mark. -/
theorem getElem?_meetFirst (details : List Detail) (issue : Issue) (place : Nat) :
    (meetFirst details issue)[place]? = details[place]?.map fun detail =>
      { detail with hit := detail.hit || details.findIdx? issue.fits = some place } := by
  unfold meetFirst
  cases found : details.findIdx? issue.fits with
  | none => simp
  | some index =>
    simp only [List.getElem?_modify]
    by_cases same : index = place
    · cases details[place]? <;> simp [same]
    · cases details[place]? <;> simp [same]

/-- Meeting a detail leaves what the fixture states. -/
@[simp] theorem map_unhit_meetFirst (details : List Detail) (issue : Issue) :
    (meetFirst details issue).map Detail.unhit = details.map Detail.unhit := by
  apply List.ext_getElem?
  intro place
  simp only [List.getElem?_map, getElem?_meetFirst, Option.map_map]
  rfl

/-- Details that the fixture states alike accept an issue at the same place. -/
theorem findIdx?_fits_congr {details others : List Detail}
    (same : details.map Detail.unhit = others.map Detail.unhit) (issue : Issue) :
    details.findIdx? issue.fits = others.findIdx? issue.fits := by
  have unmarked : ∀ list : List Detail,
      list.findIdx? issue.fits = (list.map Detail.unhit).findIdx? issue.fits := fun list => by
    rw [List.findIdx?_map]
    rfl
  rw [unmarked details, same, ← unmarked others]

/-- After a run of issues a detail is met if it was before, or if it is the first one to accept
some issue of the run. -/
theorem foldl_meetFirst (details : List Detail) (issues : List Issue) :
    issues.foldl meetFirst details = details.zipIdx.map fun (detail, place) =>
      { detail with
        hit := detail.hit ||
          issues.any fun issue => details.findIdx? issue.fits = some place } := by
  apply List.ext_getElem?
  intro place
  simp only [List.getElem?_map, List.getElem?_zipIdx, Option.map_map, Nat.zero_add]
  induction issues generalizing details with
  | nil =>
    cases found : details[place]? with
    | none => simpa using found
    | some detail => simpa using found
  | cons issue rest ih =>
    have places : ∀ other : Issue, (meetFirst details issue).findIdx? other.fits =
        details.findIdx? other.fits := findIdx?_fits_congr (map_unhit_meetFirst details issue)
    rw [List.foldl_cons, ih, getElem?_meetFirst]
    cases details[place]? <;> simp [places, Bool.or_assoc]

/-- The details that no issue of a run meets, if none was met before. -/
theorem filter_unmet_foldl_meetFirst {details : List Detail}
    (unmet : ∀ detail ∈ details, detail.hit = false) (issues : List Issue) :
    (issues.foldl meetFirst details).filter (fun detail => !detail.hit) =
      (details.zipIdx.filter fun (_, place) =>
        !issues.any fun issue => details.findIdx? issue.fits = some place).map Prod.fst := by
  have fresh : ∀ entry ∈ details.zipIdx, entry.1.hit = false := fun entry member =>
    unmet entry.1 (List.fst_mem_of_mem_zipIdx member)
  rw [foldl_meetFirst, List.filter_map]
  have same : details.zipIdx.filter ((fun detail => !detail.hit) ∘ fun entry : Detail × Nat =>
        { entry.1 with
          hit := entry.1.hit ||
            issues.any fun issue => details.findIdx? issue.fits = some entry.2 }) =
      details.zipIdx.filter fun entry =>
        !issues.any fun issue => details.findIdx? issue.fits = some entry.2 :=
    List.filter_congr fun entry member => by simp [fresh entry member]
  refine (congrArg _ same).trans (List.map_congr_left fun entry member => ?_)
  obtain ⟨listed, kept⟩ := List.mem_filter.1 member
  simp only [Bool.not_eq_true'] at kept
  simp only [fresh entry listed, kept, Bool.or_false]
  rw [← fresh entry listed]

namespace Expectation

/-! ## Details after issues -/

/-- Noting an issue meets the first detail of its code that accepts it. -/
theorem details_note {expectation : Expectation} (distinct : expectation.Distinct)
    (issue : Issue) :
    (expectation.note issue).details = expectation.details.map fun (code, details) =>
      (code, if issue.code = .ofString code then meetFirst details issue else details) := by
  unfold note
  cases spelled : issue.code.toString? with
  | none =>
    simp [LooseText.ne_ofString spelled]
  | some own =>
    simp only [LooseText.eq_ofString_iff spelled]
    cases found : Keyed.get? expectation.details own with
    | none =>
      have unlisted := (Keyed.get?_eq_none_iff _ _).1 found
      refine (List.map_id _).symm.trans (List.map_congr_left fun entry member => ?_)
      obtain ⟨code, details⟩ := entry
      have other : code ≠ own := fun equal => unlisted (equal ▸ List.mem_map_of_mem member)
      simp [other]
    | some present =>
      have value : ∀ details, (own, details) ∈ expectation.details → details = present :=
        fun details member => by
          have := (Keyed.get?_eq_some_iff distinct.details own details).2 member
          rw [found, Option.some.injEq] at this
          exact this.symm
      unfold meetFirst
      simp only [Option.getD_some]
      change (match present.findIdx? issue.fits with
        | some index => (expectation.mark own true).markDetail own index
        | none => expectation.mark own true).details = _
      cases place : present.findIdx? issue.fits with
      | none =>
        refine (List.map_id _).symm.trans (List.map_congr_left fun entry member => ?_)
        obtain ⟨code, details⟩ := entry
        by_cases equal : code = own
        · subst equal
          simp [value details member, place]
        · simp [equal]
      | some index =>
        refine List.map_congr_left fun entry member => ?_
        obtain ⟨code, details⟩ := entry
        by_cases equal : code = own
        · subst equal
          simp [value details member, place]
        · simp [equal]

/-- Noting an issue sets the mark of its code, if that is a string. -/
theorem raised_note (expectation : Expectation) (issue : Issue) :
    (expectation.note issue).raised =
      match issue.code.toString? with
      | some code => Keyed.set expectation.raised code true
      | none => expectation.raised := by
  unfold note
  cases issue.code.toString? with
  | none => rfl
  | some code =>
    simp only
    split <;> rfl

/-- Noting an issue lists no code twice. -/
theorem Distinct.note {expectation : Expectation} (distinct : expectation.Distinct)
    (issue : Issue) : (expectation.note issue).Distinct := by
  constructor
  · rw [details_note distinct, Keyed.keys_map_value fun code details =>
      if issue.code = .ofString code then meetFirst details issue else details]
    exact distinct.details
  · rw [raised_note]
    split
    · exact Keyed.nodup_keys_update distinct.raised _ _
    · exact distinct.raised

/-- Noting a run of issues lists no code twice. -/
theorem Distinct.foldl_note {expectation : Expectation} (distinct : expectation.Distinct)
    (issues : List Issue) : (issues.foldl Expectation.note expectation).Distinct := by
  induction issues generalizing expectation with
  | nil => exact distinct
  | cons issue rest ih => exact ih (distinct.note issue)

/-- Noting a run of issues meets details code by code. -/
theorem details_foldl_note {expectation : Expectation} (distinct : expectation.Distinct)
    (issues : List Issue) :
    (issues.foldl note expectation).details = expectation.details.map fun (code, details) =>
      (code, (issues.filter fun issue => issue.code = .ofString code).foldl meetFirst details) := by
  induction issues generalizing expectation with
  | nil => simp
  | cons issue rest ih =>
    rw [List.foldl_cons, ih (distinct.note issue), details_note distinct, List.map_map]
    refine List.map_congr_left fun (code, details) _ => ?_
    by_cases same : issue.code = .ofString code <;> simp [same]

/-- Whether an expectation expects an issue does not depend on what was noted before. -/
theorem expects_note {expectation : Expectation} (distinct : expectation.Distinct)
    (issue other : Issue) : (expectation.note issue).expects other = expectation.expects other := by
  unfold expects detailsOf
  rw [details_note distinct]
  cases other.code.toString? with
  | none => rfl
  | some code =>
    simp only [Option.bind_some]
    rw [Keyed.get?_map_value fun code details =>
      if issue.code = .ofString code then meetFirst details issue else details]
    cases Keyed.get? expectation.details code with
    | none => rfl
    | some details =>
      have stated : (if issue.code = .ofString code then meetFirst details issue else details).map
          Detail.unhit = details.map Detail.unhit := by
        split
        · exact map_unhit_meetFirst details issue
        · rfl
      have unmarked : ∀ list : List Detail,
          list.any other.fits = (list.map Detail.unhit).any other.fits := fun list => by
        rw [List.any_map]
        rfl
      have empty : ∀ list : List Detail, list.isEmpty = (list.map Detail.unhit).isEmpty :=
        fun list => by simp
      change (_ || List.any _ other.fits) = (_ || List.any _ other.fits)
      rw [unmarked, empty, stated, ← unmarked, ← empty]

/-! ## Codes that were not raised -/

/-- Whether some issue of a run has a code. -/
def comesUp (issues : List Issue) (code : String) : Bool :=
  issues.any fun issue => issue.code = .ofString code

/-- Codes can be chosen among those that were not raised. -/
theorem filter_unraised_and (raised : Keyed Bool) (keep : String × Bool → Bool) :
    raised.filter (fun entry => !entry.2 && keep entry) =
      (raised.filter fun entry => !entry.2).filter keep := by
  rw [List.filter_filter]
  simp only [Bool.and_comm]

/-- Setting the mark of a code takes it out of the codes that were not raised. -/
theorem filter_unraised_set {raised : Keyed Bool} (distinct : (Keyed.keys raised).Nodup)
    (code : String) :
    (Keyed.set raised code true).filter (fun entry => !entry.2) =
      raised.filter fun entry => !entry.2 && entry.1 ≠ code := by
  induction raised with
  | nil => rfl
  | cons head rest ih =>
    obtain ⟨own, hit⟩ := head
    simp only [Keyed.keys, List.map_cons, List.nodup_cons] at distinct
    by_cases same : own = code
    · subst same
      have others : rest.filter (fun entry => !entry.2 && entry.1 ≠ own) =
          rest.filter fun entry => !entry.2 :=
        List.filter_congr fun entry member => by
          have other : entry.1 ≠ own := fun equal =>
            distinct.1 (equal ▸ List.mem_map_of_mem member)
          simp [other]
      simp [Keyed.set, Keyed.update, ← others]
    · have later := ih distinct.2
      simp only [Keyed.set] at later ⊢
      rw [Keyed.update, if_neg same, List.filter_cons, List.filter_cons, later]
      simp [same]

/-- Marking a run of codes takes them out of the codes that were not raised. -/
theorem filter_unraised_marks {expectation : Expectation} (distinct : expectation.Distinct)
    (codes : List String) :
    (codes.foldl (fun settled code => settled.mark code true) expectation).raised.filter
        (fun entry => !entry.2) =
      expectation.raised.filter fun entry => !entry.2 && !codes.contains entry.1 := by
  induction codes generalizing expectation with
  | nil => simp
  | cons code rest ih =>
    have next : (expectation.mark code true).Distinct :=
      ⟨distinct.details, Keyed.nodup_keys_update distinct.raised _ _⟩
    rw [List.foldl_cons, ih next]
    have marked := filter_unraised_set distinct.raised code
    rw [filter_unraised_and, mark, marked, List.filter_filter]
    refine List.filter_congr fun entry _ => ?_
    by_cases same : entry.1 = code <;> simp [same, Bool.and_comm]

/-- Settling marks every code with an unmet detail. -/
theorem settle_eq_foldl (expectation : Expectation) :
    expectation.settle = (expectation.unmet.map Prod.fst).foldl
      (fun settled code => settled.mark code true) expectation := by
  rw [List.foldl_map]
  rfl

/-- Settling lists no code twice. -/
theorem Distinct.settle {expectation : Expectation} (distinct : expectation.Distinct) :
    expectation.settle.Distinct := by
  rw [settle_eq_foldl]
  generalize expectation.unmet.map Prod.fst = codes
  induction codes generalizing expectation with
  | nil => exact distinct
  | cons code rest ih => exact ih ⟨distinct.details, Keyed.nodup_keys_update distinct.raised _ _⟩

/-- Settling takes the codes with unmet details out of the codes that were not raised. -/
theorem filter_unraised_settle {expectation : Expectation} (distinct : expectation.Distinct) :
    expectation.settle.raised.filter (fun entry => !entry.2) =
      expectation.raised.filter fun entry =>
        !entry.2 && !(expectation.unmet.map Prod.fst).contains entry.1 := by
  rw [settle_eq_foldl, filter_unraised_marks distinct]

/-- Noting an issue takes its code out of the codes that were not raised. -/
theorem filter_unraised_note {expectation : Expectation} (distinct : expectation.Distinct)
    (issue : Issue) :
    (expectation.note issue).raised.filter (fun entry => !entry.2) =
      expectation.raised.filter fun entry =>
        !entry.2 && !decide (issue.code = .ofString entry.1) := by
  rw [raised_note]
  cases spelled : issue.code.toString? with
  | none => simp [LooseText.ne_ofString spelled]
  | some own =>
    simp only [filter_unraised_set distinct.raised, LooseText.eq_ofString_iff spelled, ne_eq,
      decide_not]

/-- After a run of issues the codes that were not raised are those of which no issue has come. -/
theorem filter_unraised_foldl_note {expectation : Expectation} (distinct : expectation.Distinct)
    (issues : List Issue) :
    (issues.foldl note expectation).raised.filter (fun entry => !entry.2) =
      expectation.raised.filter fun entry => !entry.2 && !comesUp issues entry.1 := by
  induction issues generalizing expectation with
  | nil => simp [comesUp]
  | cons issue rest ih =>
    rw [List.foldl_cons, ih (distinct.note issue), filter_unraised_and,
      filter_unraised_note distinct, List.filter_filter]
    refine List.filter_congr fun entry _ => ?_
    simp only [comesUp, List.any_cons, Bool.not_or]
    ac_rfl

/-! ## What is missing -/

/-- The details that are not the first one to accept some issue of their code, with their codes. -/
def awaitedDetails (expectation : Expectation) (issues : List Issue) : List (String × Detail) :=
  expectation.details.flatMap fun (code, details) =>
    (details.zipIdx.filter fun (_, place) =>
      !issues.any fun issue =>
        issue.code = .ofString code && details.findIdx? issue.fits = some place).map
      fun (detail, _) => (code, detail)

/-- The codes without details of which no issue has come. -/
def awaitedCodes (expectation : Expectation) (issues : List Issue) : List (String × Detail) :=
  (expectation.details.filter fun (code, details) =>
    details.isEmpty && !comesUp issues code).map fun (code, _) => (code, Detail.anything)

/-- What no issue of a run has met is what the run leaves awaited of the details. -/
theorem unmet_foldl_note {expectation : Expectation} (fresh : expectation.Fresh)
    (issues : List Issue) :
    (issues.foldl note expectation).unmet = expectation.awaitedDetails issues := by
  unfold unmet awaitedDetails
  rw [details_foldl_note fresh.toDistinct, List.flatMap_map]
  refine List.flatMap_congr fun (code, details) member => ?_
  simp only
  rw [filter_unmet_foldl_meetFirst (fresh.unmet _ member), List.map_map]
  simp only [List.any_filter]
  rfl

/-- A code of which no issue has come is awaited with its details exactly if it has some. -/
theorem mem_awaitedDetails_of_absent {expectation : Expectation} (fresh : expectation.Fresh)
    {issues : List Issue} {code : String} {details : List Detail}
    (listed : (code, details) ∈ expectation.details) (absent : comesUp issues code = false) :
    code ∈ (expectation.awaitedDetails issues).map Prod.fst ↔ details ≠ [] := by
  have none : ∀ issue ∈ issues, issue.code ≠ .ofString code := by
    simpa [comesUp] using absent
  constructor
  · intro awaited empty
    obtain ⟨⟨own, detail⟩, member, rfl⟩ := List.mem_map.1 awaited
    obtain ⟨⟨code, others⟩, stated, part⟩ := List.mem_flatMap.1 member
    obtain ⟨⟨found, place⟩, kept, same⟩ := List.mem_map.1 part
    obtain ⟨rfl, -⟩ := Prod.mk.inj same
    have present := List.fst_mem_of_mem_zipIdx (List.mem_of_mem_filter kept)
    have own := (Keyed.get?_eq_some_iff fresh.distinct code details).2 listed
    have other := (Keyed.get?_eq_some_iff fresh.distinct code others).2 stated
    rw [own, empty] at other
    cases other
    cases present
  · intro some
    obtain ⟨detail, rest, rfl⟩ := List.exists_cons_of_ne_nil some
    refine List.mem_map.2 ⟨(code, detail), List.mem_flatMap.2 ⟨_, listed, ?_⟩, rfl⟩
    refine List.mem_map.2 ⟨(detail, 0), List.mem_filter.2 ⟨by simp [List.zipIdx_cons], ?_⟩, rfl⟩
    simp only [Bool.not_eq_true', List.any_eq_false]
    intro issue member
    simp [none issue member]

/-- The marks of a fresh expectation are those of its codes, none of them raised. -/
theorem Fresh.raised_eq {expectation : Expectation} (fresh : expectation.Fresh) :
    expectation.raised = expectation.details.map fun entry => (entry.1, false) := by
  have marks : expectation.raised = expectation.raised.map fun entry => (entry.1, false) := by
    refine (List.map_id _).symm.trans (List.map_congr_left fun entry member => ?_)
    obtain ⟨code, hit⟩ := entry
    have unraised : hit = false := fresh.unraised _ member
    simp [unraised]
  have keys := congrArg (List.map fun code => (code, false)) fresh.inStep
  simp only [Keyed.keys, List.map_map] at keys
  exact marks.trans keys

/-- What is missing after a run of issues: the details it leaves awaited, and then the codes. -/
theorem missing_foldl_note {expectation : Expectation} (fresh : expectation.Fresh)
    (issues : List Issue) :
    (issues.foldl note expectation).missing =
      expectation.awaitedDetails issues ++ expectation.awaitedCodes issues := by
  have noted := fresh.toDistinct.foldl_note issues
  have left : (issues.foldl note expectation).settle.raised.filter (fun entry => !entry.2) =
      (expectation.details.filter fun (code, details) =>
        details.isEmpty && !comesUp issues code).map fun entry => (entry.1, false) := by
    rw [filter_unraised_settle noted, unmet_foldl_note fresh, filter_unraised_and,
      filter_unraised_foldl_note fresh.toDistinct, List.filter_filter, fresh.raised_eq,
      List.filter_map]
    refine congrArg _ (List.filter_congr fun (code, details) member => ?_)
    cases absent : comesUp issues code with
    | true => simp [absent]
    | false =>
      have accounted := mem_awaitedDetails_of_absent fresh member absent
      cases details <;> simp_all
  rw [missing, left, unmet_foldl_note fresh, List.map_map]
  rfl

end Expectation

end LintBench
