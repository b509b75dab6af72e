import LintBench.Proofs.Expectation.Reading
import LintBench.Proofs.Expectation.Rendering

/-!
# Codes that comments list

Whatever a comment holds, the codes that are read in it are issue codes, each as a
whole. So a text between brackets is read as a code of its own exactly if it is an
issue code, also where the text has brackets, quotes or semicolons in it.
-/

namespace LintBench.Expectation

open Text

/-- Whether all codes of an expectation are issue codes, those with details and those with a
mark. -/
structure ListsCodes (expectation : Expectation) : Prop where
  /-- The expected codes are issue codes. -/
  details : ∀ code ∈ Keyed.keys expectation.details, isIssueCode code = true
  /-- The codes with a mark are issue codes. -/
  raised : ∀ code ∈ Keyed.keys expectation.raised, isIssueCode code = true

/-- The expectation that expects nothing lists no code at all. -/
theorem listsCodes_empty : empty.ListsCodes :=
  ⟨by simp [empty, Keyed.keys], by simp [empty, Keyed.keys]⟩

/-- What lists issue codes still does when it takes in what lists issue codes. -/
theorem ListsCodes.merge {expectation other : Expectation} (lists : expectation.ListsCodes)
    (listsOther : other.ListsCodes) : (expectation.merge other).ListsCodes where
  details code member :=
    (Keyed.mem_keys_of_combine _ _ (merge_details expectation other ▸ member)).elim
      (lists.details code) (listsOther.details code)
  raised code member :=
    (Keyed.mem_keys_of_combine _ _ (merge_raised expectation other ▸ member)).elim
      (lists.raised code) (listsOther.raised code)

/-- A segment adds an issue code or nothing. -/
theorem ListsCodes.addSegment {expectation next : Expectation} (lists : expectation.ListsCodes)
    {segment : List Char} (added : expectation.addSegment segment = .ok next) :
    next.ListsCodes := by
  unfold Expectation.addSegment at added
  split at added
  · rename_i code after found
    obtain ⟨details, -, rfl⟩ := Runs.map_eq_ok.1 added
    have isCode : isIssueCode (String.ofList code) = true := by
      rw [isIssueCode_iff_isCode, String.toList_ofList]
      exact (parts_of_findCode found).1
    rw [add_eq_merge]
    exact lists.merge ⟨by simpa [Keyed.keys] using isCode, by simpa [Keyed.keys] using isCode⟩
  · cases added
    exact lists

/-- A comment lists issue codes only. -/
theorem listsCodes_of_read {comment : List Char} {expectation : Expectation}
    (isRead : read comment = .ok expectation) : expectation.ListsCodes :=
  Runs.keeps_of_foldlM ListsCodes (fun _ _ _ lists added => lists.addSegment added) isRead
    listsCodes_empty

/-- The expectation of a code of which nothing more is expected. -/
def ofCode (code : String) : Expectation := { details := [(code, [])], raised := [(code, false)] }

/-- An issue code between brackets is read as that code. -/
theorem read_bracketed {token : String} (isCode : isIssueCode token = true) :
    read ('[' :: token.toList ++ [']']) = .ok (ofCode token) := by
  have text : '[' :: token.toList ++ [']'] = [] ++ renderCode token [] ++ [] := by
    simp [renderCode]
  have whole : segments ('[' :: token.toList ++ [']']) = ['[' :: token.toList ++ [']']] := by
    have ended := unsplit_renderCode isCode [] [] []
    rw [splitSegments_nil] at ended
    simpa [segments, renderCode] using ended
  have nothing : EndsDetails [] ∧ EndsCode [] := by
    simp [EndsDetails, EndsItem, EndsCode, skipBlanks]
  have short : ∀ detail ∈ ([] : List (Nat × String)), (toString detail.1).length ≤ digitLimit := by
    simp
  have added := addSegment_renderCode List.not_mem_nil isCode short nothing.1 nothing.2 empty
  rw [read, whole, List.foldlM_cons, text, added]
  rfl

/-- A text between brackets is read as that text and nothing else exactly if it is an issue code. -/
theorem read?_bracketed_iff (token : String) :
    read? ("[" ++ token ++ "]") = .ok (some (ofCode token)) ↔ isIssueCode token = true := by
  have text : ("[" ++ token ++ "]").toList = '[' :: token.toList ++ [']'] := by simp
  unfold read?
  rw [text]
  constructor
  · intro found
    obtain ⟨expectation, isRead, same⟩ := Runs.map_eq_ok.1 found
    obtain ⟨-, same⟩ := Option.ite_none_left_eq_some.1 same
    have lists := listsCodes_of_read isRead
    rw [Option.some.inj same] at lists
    exact lists.details token (by simp [ofCode, Keyed.keys])
  · intro isCode
    rw [read_bracketed isCode]
    rfl

end LintBench.Expectation
