import LintBench.Files.Tree
import Mathlib.Data.List.Basic

/-!
# The text of a path

A relative path of names that name something is read back from its text, and the
text of a path is no shorter than that of the way to it.
-/

namespace LintBench

namespace Text

/-- The pieces of two texts with the separator between them are those of the one and then those of
the other. -/
theorem splitOn_append_separator {α : Type} [DecidableEq α] (separator : α) (front rest : List α) :
    splitOn separator (front ++ separator :: rest) =
      splitOn separator front ++ splitOn separator rest := by
  induction front with
  | nil => simp [splitOn]
  | cons c front ih =>
    rw [List.cons_append, splitOn, splitOn, ih]
    by_cases same : c = separator
    · simp [same]
    · rw [if_neg same, if_neg same]
      cases cut : splitOn separator front with
      | nil => exact absurd cut (splitOn_ne_nil separator front)
      | cons piece pieces => simp

/-- A text without the separator is one piece. -/
theorem splitOn_of_not_mem {α : Type} [DecidableEq α] {separator : α} {piece : List α}
    (free : separator ∉ piece) : splitOn separator piece = [piece] := by
  induction piece with
  | nil => rfl
  | cons c piece ih =>
    simp only [List.mem_cons, not_or] at free
    rw [splitOn, if_neg (Ne.symm free.1), ih free.2]

/-- A text without the separator is the first piece of what it starts. -/
theorem splitOn_append {α : Type} [DecidableEq α] {separator : α} {piece : List α}
    (free : separator ∉ piece) (rest : List α) :
    splitOn separator (piece ++ separator :: rest) = piece :: splitOn separator rest := by
  rw [splitOn_append_separator, splitOn_of_not_mem free, List.singleton_append]

/-- A character at the end of a text, if it is not the separator, goes to the last piece. -/
theorem splitOn_concat {α : Type} [DecidableEq α] {separator c : α} (other : c ≠ separator)
    (text : List α) :
    ∃ pieces last, splitOn separator text = pieces ++ [last] ∧
      splitOn separator (text ++ [c]) = pieces ++ [last ++ [c]] := by
  induction text with
  | nil => exact ⟨[], [], rfl, by simp [splitOn, other]⟩
  | cons first text ih =>
    obtain ⟨pieces, last, cut, longer⟩ := ih
    rw [List.cons_append, splitOn, splitOn, cut, longer]
    by_cases same : first = separator
    · exact ⟨[] :: pieces, last, by simp [same], by simp [same]⟩
    · rw [if_neg same, if_neg same]
      cases pieces with
      | nil => exact ⟨[], first :: last, rfl, rfl⟩
      | cons piece pieces => exact ⟨(first :: piece) :: pieces, last, rfl, rfl⟩

/-- Pieces without the separator are found again in the text that they are joined to. -/
theorem splitOn_intercalate {α : Type} [DecidableEq α] {separator : α} {pieces : List (List α)}
    (some : pieces ≠ []) (free : ∀ piece ∈ pieces, separator ∉ piece) :
    splitOn separator ([separator].intercalate pieces) = pieces := by
  induction pieces with
  | nil => exact absurd rfl some
  | cons piece rest ih =>
    obtain ⟨first, others⟩ := List.forall_mem_cons.1 free
    cases rest with
    | nil => rw [List.intercalate_singleton, splitOn_of_not_mem first]
    | cons next rest =>
      rw [List.intercalate_cons_cons, List.append_assoc, List.singleton_append,
        splitOn_append first, ih (by simp) others]

/-- Two rows of pieces are joined to the one text, the separator and the other text. -/
theorem intercalate_append {α : Type} (separator : α) {front rest : List (List α)}
    (some : front ≠ []) (more : rest ≠ []) :
    [separator].intercalate (front ++ rest) =
      [separator].intercalate front ++ separator :: [separator].intercalate rest := by
  induction front with
  | nil => exact absurd rfl some
  | cons piece front ih =>
    cases front with
    | nil =>
      obtain ⟨next, others, rfl⟩ := List.exists_cons_of_ne_nil more
      rw [List.singleton_append, List.intercalate_cons_cons, List.intercalate_singleton,
        List.append_assoc, List.singleton_append]
    | cons next front =>
      have joined := ih (List.cons_ne_nil next front)
      rw [List.cons_append, List.cons_append, List.intercalate_cons_cons, ← List.cons_append, joined,
        List.intercalate_cons_cons, List.append_assoc, List.append_assoc, List.append_assoc]

/-- A text that pieces were joined to starts with other pieces and a separator exactly if these are
the first of its pieces, and not all of them. -/
theorem closed_prefix_iff {α : Type} [DecidableEq α] {separator : α}
    {front pieces : List (List α)} (some : front ≠ []) (free : ∀ piece ∈ front, separator ∉ piece)
    (freePieces : ∀ piece ∈ pieces, separator ∉ piece) :
    [separator].intercalate front ++ [separator] <+: [separator].intercalate pieces ↔
      front <+: pieces ∧ front ≠ pieces := by
  constructor
  · rintro ⟨rest, joined⟩
    rw [List.append_assoc, List.singleton_append] at joined
    have inhabited : pieces ≠ [] := by
      intro none
      rw [none, List.intercalate_nil] at joined
      simp at joined
    have cut : pieces = front ++ splitOn separator rest := by
      rw [← splitOn_intercalate inhabited freePieces, ← joined, splitOn_append_separator,
        splitOn_intercalate some free]
    refine ⟨⟨_, cut.symm⟩, fun whole => ?_⟩
    rw [← whole, List.self_eq_append_right] at cut
    exact splitOn_ne_nil separator rest cut
  · rintro ⟨⟨rest, rfl⟩, proper⟩
    have more : rest ≠ [] := by
      intro none
      rw [none, List.append_nil] at proper
      exact proper rfl
    rw [intercalate_append separator some more]
    exact ⟨[separator].intercalate rest, by rw [List.append_assoc, List.singleton_append]⟩

/-- The pieces of a text do not have the separator in them. -/
theorem not_mem_of_mem_splitOn {α : Type} [DecidableEq α] {separator : α} {text piece : List α}
    (member : piece ∈ splitOn separator text) : separator ∉ piece := by
  induction text generalizing piece with
  | nil => simp_all [splitOn]
  | cons c rest ih =>
    rw [splitOn] at member
    split at member
    · rcases List.mem_cons.1 member with rfl | later
      · exact List.not_mem_nil
      · exact ih later
    · rename_i different
      cases cut : splitOn separator rest with
      | nil => exact absurd cut (splitOn_ne_nil separator rest)
      | cons first pieces =>
        simp only [cut, List.mem_cons] at member ih
        rcases member with rfl | later
        · simp [Ne.symm different, ih (.inl rfl)]
        · exact ih (.inr later)

end Text

namespace Path

/-- Whether a name can stand on a path: it is not dropped when the path is read, and it is one
name. -/
structure IsProper (name : String) : Prop where
  /-- It names something. -/
  named : isName name = true
  /-- It has no slash in it. -/
  whole : '/' ∉ name.toList

instance (name : String) : Decidable (IsProper name) :=
  decidable_of_iff (isName name = true ∧ '/' ∉ name.toList)
    ⟨fun ⟨named, whole⟩ => ⟨named, whole⟩, fun ⟨named, whole⟩ => ⟨named, whole⟩⟩

/-- The names of a path are proper when it was read. -/
theorem isProper_of_mem_ofString {text name : String} (member : name ∈ (ofString text).names) :
    IsProper name := by
  obtain ⟨piece, named⟩ := List.mem_filter.1 member
  obtain ⟨letters, cut, rfl⟩ := List.mem_map.1 piece
  refine ⟨named, ?_⟩
  rw [String.toList_ofList]
  exact Text.not_mem_of_mem_splitOn cut

/-- A text that starts with a proper name is that of a relative path. -/
theorem anchorOf_of_isProper {name : String} (proper : IsProper name) (rest : List Char) :
    anchorOf (name.toList ++ rest) = .relative := by
  have whole := proper.whole
  cases letters : name.toList with
  | nil =>
    have named := proper.named
    rw [String.toList_eq_nil_iff] at letters
    simp [letters, isName] at named
  | cons c letters' =>
    rw [letters] at whole
    simp only [List.mem_cons, not_or] at whole
    unfold anchorOf
    split <;> simp_all

/-- The text of a relative path is read as that path. -/
theorem ofString_toString {names : List String} (proper : ∀ name ∈ names, IsProper name) :
    ofString (toString { names }) = { names } := by
  cases names with
  | nil => decide
  | cons name rest =>
    have text : (toString { names := name :: rest }).toList =
        ['/'].intercalate ((name :: rest).map String.toList) := by
      simp [toString, Anchor.text, String.toList_intercalate]
    have anchored : anchorOf (['/'].intercalate ((name :: rest).map String.toList)) = .relative := by
      have first := proper name List.mem_cons_self
      cases rest with
      | nil => simpa using anchorOf_of_isProper first []
      | cons next rest =>
        rw [List.map_cons, List.map_cons, List.intercalate_cons_cons, List.append_assoc]
        exact anchorOf_of_isProper first _
    have cut : Text.splitOn '/' (['/'].intercalate ((name :: rest).map String.toList)) =
        (name :: rest).map String.toList := by
      refine Text.splitOn_intercalate (by simp) fun piece member => ?_
      obtain ⟨other, listed, rfl⟩ := List.mem_map.1 member
      exact (proper other listed).whole
    rw [ofString, Text.pieces, text, anchored, cut, List.map_map]
    simp only [Function.comp_def, String.ofList_toList, List.map_id']
    rw [List.filter_eq_self.2 fun other member => (proper other member).named]

/-- The letters of a path from the root. -/
theorem toList_toString_ofNames (names : List String) :
    (ofNames names).toString.toList = '/' :: ['/'].intercalate (names.map String.toList) := by
  simp [toString, ofNames, Anchor.text, String.toList_intercalate]

/-- The way along names has no longer text than the names. -/
theorem utf8ByteSize_intercalate_le {front names : List String} (above : front <+: names) :
    ("/".intercalate front).utf8ByteSize ≤ ("/".intercalate names).utf8ByteSize := by
  induction front generalizing names with
  | nil => simp
  | cons name front ih =>
    obtain ⟨rest, rfl⟩ := above
    rw [List.cons_append]
    cases front with
    | nil =>
      cases rest with
      | nil => simp
      | cons next rest => simp [String.intercalate_cons_cons, String.utf8ByteSize_append]; omega
    | cons next front =>
      have shorter := ih (List.prefix_append (next :: front) rest)
      rw [List.cons_append] at shorter ⊢
      simp only [String.intercalate_cons_cons, String.utf8ByteSize_append]
      omega

/-- The way to a path has no longer text than the path. -/
theorem utf8ByteSize_toString_le {front names : List String} (above : front <+: names) :
    (ofNames front).toString.utf8ByteSize ≤ (ofNames names).toString.utf8ByteSize := by
  simp only [toString, ofNames, reduceCtorEq, false_and, if_false, String.utf8ByteSize_append]
  exact Nat.add_le_add_left (utf8ByteSize_intercalate_le above) _

end Path

end LintBench
