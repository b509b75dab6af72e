import LintBench.Proofs.Expectation.Marks
import LintBench.Proofs.Files.Resolving

/-!
# Paths that defy resolution

A path that does not resolve is left out or left empty where a fault of the tree keeps
it from doing so. Three faults are no such thing: a name that ends early, a link that leads
through itself without end, and links that lead through each other too deep. A reported path
may also have a piece that can be no name at all.
-/

namespace LintBench

open Text (Letter)

namespace Tree

variable {tree : Tree} {path resolvedPath : Path} {fault : FileFault}

/-- A path that is there resolves to where it leads. -/
theorem resolveIfThere_eq_some_iff_resolves :
    tree.resolveIfThere path = .ok (some resolvedPath) ↔ tree.Resolves path resolvedPath := by
  rw [resolveIfThere, ← resolveStrict_eq_ok_iff]
  cases tree.resolveStrict path with
  | ok resolved => simp
  | error fault =>
    simp only [reduceCtorEq, iff_false]
    split <;> simp

/-- A path is not there if the tree does not let it resolve. -/
theorem resolveIfThere_eq_none_iff :
    tree.resolveIfThere path = .ok none ↔ ∃ fault, fault.ofTree = true ∧ tree.Breaks path fault := by
  simp only [← resolveStrict_eq_error_iff, resolveIfThere]
  cases tree.resolveStrict path with
  | ok resolved => simp
  | error fault => cases ofTree : fault.ofTree <;> simp [ofTree]

end Tree

/-! ## Reported paths -/

/-- Whether a text is cut at its first piece between slashes that is no string: strings stand before
it. -/
structure LooseText.CutsAt (text : LooseText) (before : List String) (odd : List Letter) : Prop where
  /-- The pieces between the slashes. -/
  pieces : ∃ after, Text.splitOn (.char '/') text.letters =
    before.map (fun piece => Text.lettersOf piece.toList) ++ odd :: after
  /-- The piece is no string. -/
  half : (odd.all fun letter => letter.char?.isSome) = false

/-- The path to a piece that strings stand before. -/
def Path.before (base : Path) (pieces : List String) : Path :=
  base / .ofString ("/".intercalate (pieces ++ [""]))

namespace Text

/-- Letters that are all characters are those of a string. -/
theorem lettersOf_shownLetters {letters : List Letter}
    (isString : (letters.all fun letter => letter.char?.isSome) = true) :
    lettersOf (shownLetters letters) = letters := by
  induction letters with
  | nil => rfl
  | cons letter rest ih =>
    rw [List.all_cons, Bool.and_eq_true] at isString
    cases letter with
    | char c => exact congrArg (Letter.char c :: ·) (ih isString.2)
    | half index => simp [Letter.char?] at isString

/-- A string is shown as it is. -/
theorem shownLetters_lettersOf (text : List Char) : shownLetters (lettersOf text) = text := by
  induction text with
  | nil => rfl
  | cons c rest ih => exact congrArg (c :: ·) ih

/-- Every letter of a string is a character. -/
theorem all_lettersOf (text : List Char) :
    ((lettersOf text).all fun letter => letter.char?.isSome) = true := by
  simp [lettersOf, Letter.char?]

/-- What is no separator is in a text exactly if it is in one of its pieces. -/
theorem mem_iff_mem_splitOn {α : Type} [DecidableEq α] {separator item : α} (other : item ≠ separator)
    (text : List α) : item ∈ text ↔ ∃ piece ∈ splitOn separator text, item ∈ piece := by
  induction text with
  | nil => simp [splitOn]
  | cons c rest ih =>
    rw [List.mem_cons, ih, splitOn]
    split
    · rename_i same
      simp [same, other]
    · cases cut : splitOn separator rest with
      | nil => exact absurd cut (splitOn_ne_nil separator rest)
      | cons piece pieces => simp [or_assoc]

end Text

namespace LooseText

variable {text : LooseText} {before : List String} {odd : List Letter}

/-- A text is no string if it has half of a pair in it. -/
theorem toString?_eq_none_iff :
    text.toString? = none ↔ ∃ letter ∈ text.letters, letter.char? = none := by
  constructor
  · intro noString
    by_contra whole
    push Not at whole
    have isString : (text.letters.all fun letter => letter.char?.isSome) = true :=
      List.all_eq_true.2 fun letter member => Option.isSome_iff_ne_none.2 (whole letter member)
    refine ne_ofString noString (String.ofList (Text.shownLetters text.letters)) ?_
    rw [ofString, String.toList_ofList, Text.lettersOf_shownLetters isString]
  · rintro ⟨letter, member, half⟩
    cases spelled : text.toString? with
    | none => rfl
    | some string =>
      rw [toString?_eq_some_iff.1 spelled] at member
      obtain ⟨c, -, rfl⟩ := List.mem_map.1 member
      cases half

/-- A text that is no string is cut at some piece. -/
theorem exists_cutsAt (noString : text.toString? = none) :
    ∃ before odd, text.CutsAt before odd := by
  obtain ⟨letter, member, half⟩ := toString?_eq_none_iff.1 noString
  have noSlash : letter ≠ .char '/' := by
    rintro rfl
    cases half
  obtain ⟨piece, listed, inside⟩ := (Text.mem_iff_mem_splitOn noSlash text.letters).1 member
  let isString (piece : List Letter) : Bool := piece.all fun letter => letter.char?.isSome
  let pieces := Text.splitOn (.char '/') text.letters
  have whole : pieces.takeWhile isString ++ pieces.dropWhile isString = pieces :=
    List.takeWhile_append_dropWhile
  have readable : (pieces.takeWhile isString).all isString = true := List.all_takeWhile
  cases rest : pieces.dropWhile isString with
  | nil =>
    rw [rest, List.append_nil] at whole
    rw [whole] at readable
    have isChar := List.all_eq_true.1 (List.all_eq_true.1 readable piece listed) letter inside
    simp [half] at isChar
  | cons odd after =>
    let before := (pieces.takeWhile isString).map fun piece =>
      String.ofList (Text.shownLetters piece)
    have same : before.map (fun piece => Text.lettersOf piece.toList) =
        pieces.takeWhile isString := by
      rw [List.map_map]
      refine (List.map_congr_left fun piece member => ?_).trans (List.map_id _)
      rw [Function.comp_apply, String.toList_ofList]
      exact Text.lettersOf_shownLetters (List.all_eq_true.1 readable piece member)
    refine ⟨before, odd, ⟨after, ?_⟩, ?_⟩
    · rw [same, ← rest]
      exact whole.symm
    · have first := List.head_dropWhile_not isString (l := pieces) (by simp [rest])
      simpa [rest, isString] using first

/-- A text that is cut at some piece is no string. -/
theorem CutsAt.toString?_eq_none (cut : text.CutsAt before odd) : text.toString? = none := by
  obtain ⟨⟨after, pieces⟩, half⟩ := cut
  obtain ⟨letter, inside, notChar⟩ := List.all_eq_false.1 half
  rw [Option.not_isSome_iff_eq_none] at notChar
  have noSlash : letter ≠ .char '/' := by
    rintro rfl
    cases notChar
  refine toString?_eq_none_iff.2 ⟨letter, ?_, notChar⟩
  exact (Text.mem_iff_mem_splitOn noSlash text.letters).2 ⟨odd, by simp [pieces], inside⟩

/-- A text is a string, or it is cut at a piece that is none. -/
theorem string_or_cut (text : LooseText) :
    (∃ path, text = .ofString path) ∨ ∃ before odd, text.CutsAt before odd := by
  cases spelled : text.toString? with
  | some path => exact .inl ⟨path, toString?_eq_some_iff.1 spelled⟩
  | none => exact .inr (exists_cutsAt spelled)

end LooseText

namespace Tree

variable {tree : Tree} {base : Path} {text : LooseText} {before : List String} {odd : List Letter}

/-- A reported path that is cut at a piece is resolved as far as that piece. -/
theorem resolveReported_of_cutsAt (cut : text.CutsAt before odd) :
    tree.resolveReported base text = (do
      let found ← tree.resolveIfThere (base.before before)
      if found.isSome && !odd.all Letter.isNameable then .error .unencodable else return none) := by
  obtain ⟨after, pieces⟩ := cut.pieces
  have strings : (before.map fun piece => Text.lettersOf piece.toList).all
      (fun piece => piece.all fun letter => letter.char?.isSome) = true := by
    rw [List.all_map]
    exact List.all_eq_true.2 fun piece _ => Text.all_lettersOf piece.toList
  have readable : ((before.map fun piece => Text.lettersOf piece.toList) ++ odd :: after).takeWhile
      (fun piece => piece.all fun letter => letter.char?.isSome) =
        before.map fun piece => Text.lettersOf piece.toList := by
    rw [List.takeWhile_append_of_pos (fun piece member => List.all_eq_true.1 strings piece member),
      List.takeWhile_cons_of_neg (by simp [cut.half]), List.append_nil]
  rw [resolveReported, cut.toString?_eq_none]
  simp only [pieces, readable, List.map_map, Function.comp_def, Text.shownLetters_lettersOf,
    String.ofList_toList, List.map_id']
  rw [List.drop_append_of_le_length (by simp), List.drop_eq_nil_of_le (by simp)]
  rfl

/-- What a path that is reported below a directory is normalized to: where it leads, or nothing if
the tree does not let it resolve. A path with a piece that is no string leads nowhere. -/
inductive NormalizesTo (tree : Tree) (base : Path) : LooseText → Option Path → Prop where
  /-- The path leads somewhere. -/
  | leads {path : String} {resolved : Path}
      (resolves : tree.Resolves (base / .ofString path) resolved) :
      NormalizesTo tree base (.ofString path) (some resolved)
  /-- The tree does not let the path resolve. -/
  | breaks {path : String} {fault : FileFault} (ofTree : fault.ofTree = true)
      (breaks : tree.Breaks (base / .ofString path) fault) :
      NormalizesTo tree base (.ofString path) none
  /-- The path leads to a piece that no name in the tree is, though one could be. -/
  | unnamed {text : LooseText} {before : List String} {odd : List Letter} {resolved : Path}
      (cut : text.CutsAt before odd) (resolves : tree.Resolves (base.before before) resolved)
      (nameable : odd.all Letter.isNameable = true) : NormalizesTo tree base text none
  /-- The tree does not let the path resolve as far as a piece that is no string. -/
  | breaksBefore {text : LooseText} {before : List String} {odd : List Letter} {fault : FileFault}
      (cut : text.CutsAt before odd) (ofTree : fault.ofTree = true)
      (breaks : tree.Breaks (base.before before) fault) : NormalizesTo tree base text none

variable {outcome : Option Path} {fault : FileFault}

/-- A reported path that is a string is resolved as it is written. -/
theorem resolveReported_ofString (tree : Tree) (base : Path) (path : String) :
    tree.resolveReported base (.ofString path) = tree.resolveIfThere (base / .ofString path) := by
  rw [resolveReported, LooseText.toString?_ofString]

/-- A reported path is resolved to what it is normalized to. -/
theorem resolveReported_eq_ok_iff :
    tree.resolveReported base text = .ok outcome ↔ tree.NormalizesTo base text outcome := by
  constructor
  · intro found
    obtain ⟨path, rfl⟩ | ⟨before, odd, cut⟩ := LooseText.string_or_cut text
    · rw [resolveReported_ofString] at found
      cases outcome with
      | some resolved => exact .leads (resolveIfThere_eq_some_iff_resolves.1 found)
      | none =>
        obtain ⟨fault, ofTree, breaks⟩ := resolveIfThere_eq_none_iff.1 found
        exact .breaks ofTree breaks
    · rw [resolveReported_of_cutsAt cut] at found
      obtain ⟨there, ran, later⟩ := Runs.bind_eq_ok.1 found
      split at later
      · cases later
      · rename_i nameable
        cases later
        cases there with
        | none =>
          obtain ⟨fault, ofTree, breaks⟩ := resolveIfThere_eq_none_iff.1 ran
          exact .breaksBefore cut ofTree breaks
        | some resolved =>
          exact .unnamed cut (resolveIfThere_eq_some_iff_resolves.1 ran) (by simpa using nameable)
  · intro normalizes
    cases normalizes with
    | leads resolves =>
      rw [resolveReported_ofString]
      exact resolveIfThere_eq_some_iff_resolves.2 resolves
    | breaks ofTree breaks =>
      rw [resolveReported_ofString]
      exact resolveIfThere_eq_none_iff.2 ⟨_, ofTree, breaks⟩
    | unnamed cut resolves nameable =>
      rw [resolveReported_of_cutsAt cut, resolveIfThere_eq_some_iff_resolves.2 resolves]
      simp [bind, Except.bind, pure, Except.pure, nameable]
    | breaksBefore cut ofTree breaks =>
      rw [resolveReported_of_cutsAt cut, resolveIfThere_eq_none_iff.2 ⟨_, ofTree, breaks⟩]
      rfl

end Tree

end LintBench
