import LintBench.Proofs.Fixture.Reading

/-!
# Texts with a blank line between them

What a text expects does not reach over a blank line, neither down nor up. Two texts
with such a line between them are read as the two would be by themselves: the
expectations of the one stand where they stood, and those of the other so much
further down. Only the first line of the whole can hold a directive.
-/

namespace LintBench

open Text

/-! ## Lines of joined texts -/

/-- The lines of two texts with a line end between them are those of the one and then those of the
other. -/
theorem linesOf_append (above below : String) :
    linesOf (above ++ "\n" ++ below) = linesOf above ++ linesOf below := by
  have joined : (above ++ "\n" ++ below).toList = above.toList ++ '\n' :: below.toList := by
    rw [String.toList_append, String.toList_append, List.append_assoc]
    rfl
  rw [linesOf, joined, splitOn_append_separator, List.map_append, linesOf, linesOf]

/-- A text has at least one line. -/
theorem length_linesOf_pos (content : String) : 0 < (linesOf content).length := by
  have pieces := List.length_pos_of_ne_nil (splitOn_ne_nil '\n' content.toList)
  rwa [linesOf, List.length_map]

/-- Nothing is left of blanks when they are trimmed. -/
theorem trim_of_blank {line : List Char} (blank : ∀ c ∈ line, isBlank c = true) :
    trim line = [] := by
  have nothing : skipBlanks line = [] := List.dropWhile_eq_nil_iff.2 blank
  rw [trim, nothing]
  rfl

/-- A blank text is one line, of which nothing is left when it is trimmed. -/
theorem linesOf_blank {blank : String} (isBlank : isAllBlank blank = true)
    (single : '\n' ∉ blank.toList) : ∃ line, linesOf blank = [line] ∧ trim line = [] := by
  have blanks : ∀ c ∈ blank.toList, Text.isBlank c = true := List.all_eq_true.1 isBlank
  refine ⟨dropFinal '\r' blank.toList, ?_, ?_⟩
  · rw [linesOf, splitOn_of_not_mem single, List.map_singleton]
  · apply trim_of_blank
    intro c member
    unfold dropFinal at member
    split at member
    · exact blanks c (List.mem_of_mem_dropLast member)
    · exact blanks c member

section LineAt

variable (front rest : List (List Char)) {line : Nat}

/-- The first of some lines are their own. -/
theorem lineAt_append_of_le (within : line ≤ front.length) :
    lineAt (front ++ rest) line = lineAt front line := by
  cases line with
  | zero => rfl
  | succ line => simp [lineAt, List.getElem?_append_left within]

/-- The lines after some others are found so much further down. -/
theorem lineAt_append_add (positive : 0 < line) :
    lineAt (front ++ rest) (line + front.length) = lineAt rest line := by
  obtain ⟨before, rfl⟩ : ∃ before, line = before + 1 := ⟨line - 1, by omega⟩
  have place : before + 1 + front.length = before + front.length + 1 := by omega
  rw [place]
  simp [lineAt, List.getElem?_append_right]

end LineAt

/-! ## Places that depend on some lines alone -/

section Agreement

variable {markers lines others : List (List Char)} {line depth : Nat}

/-- What a line states is read off what is left of it when it is trimmed. -/
theorem remarkAt_congr {other : Nat} (same : trim (lineAt lines line) = trim (lineAt others other)) :
    remarkAt markers lines line = remarkAt markers others other := by
  unfold remarkAt remarkOf
  rw [same]

/-- Whether a line is a comment is seen by what is left of it when it is trimmed. -/
theorem isCommentLine_congr {one other : List Char} (same : trim one = trim other) :
    isCommentLine markers one = isCommentLine markers other := by
  unfold isCommentLine
  rw [same]

/-- A blank line states nothing. -/
theorem remarkAt_of_blank (blank : trim (lineAt lines line) = []) :
    remarkAt markers lines line = .silent := by
  have asNone : trim (lineAt lines line) = trim (lineAt [] 0) := blank
  rw [remarkAt_congr asNone, remarkAt_zero]

/-- A blank line is no comment. -/
theorem isCommentLine_of_blank (blank : trim (lineAt lines line) = []) :
    isCommentLine markers (lineAt lines line) = false :=
  (isCommentLine_congr blank).trans (isCommentLine_nil markers)

/-- Under a blank line stays what is gathered above it. -/
theorem placed_of_blank (blank : trim (lineAt lines line) = []) :
    placed markers lines line = gathered markers lines line := by
  unfold placed
  rw [remarkAt_of_blank blank, isCommentLine_of_blank blank]
  rfl

/-- Whether the lines of a text, as far as a line of it, are found so much further down in another
one, blanks around them aside. Above its first line there is nothing, or a blank line. -/
def FoundBelow (lines others : List (List Char)) (depth last : Nat) : Prop :=
  ∀ line ≤ last, trim (lineAt lines (line + depth)) = trim (lineAt others line)

/-- The pile above a line depends on the lines above it alone. -/
theorem pileAbove_congr (positive : 0 < line) {last : Nat} (found : FoundBelow lines others depth last)
    (within : line ≤ last + 1) :
    pileAbove markers lines (line + depth) = pileAbove markers others line := by
  induction line with
  | zero => exact absurd positive (Nat.lt_irrefl 0)
  | succ line ih =>
    have states : remarkAt markers lines (line + depth) = remarkAt markers others line :=
      remarkAt_congr (found line (by omega))
    have place : line + 1 + depth = line + depth + 1 := by omega
    rw [place, pileAbove, pileAbove, states]
    by_cases first : line = 0
    · rw [first, remarkAt_zero]
    · rw [ih (by omega) (by omega)]

/-- What is gathered above a line depends on the lines above it alone. -/
theorem gathered_congr (positive : 0 < line) {last : Nat} (found : FoundBelow lines others depth last)
    (within : line ≤ last + 1) :
    gathered markers lines (line + depth) = gathered markers others line := by
  unfold gathered
  rw [pileAbove_congr positive found within]

/-- What belongs under a line depends on the lines above it, the line itself and the next one. -/
theorem placed_congr (positive : 0 < line) (found : FoundBelow lines others depth (line + 1)) :
    placed markers lines (line + depth) = placed markers others line := by
  have own := found line (by omega)
  have above := found (line - 1) (by omega)
  have next := found (line + 1) (by omega)
  have placeAbove : line + depth - 1 = line - 1 + depth := by omega
  have placeNext : line + depth + 1 = line + 1 + depth := by omega
  have pile : gathered markers lines (line + depth) = gathered markers others line :=
    gathered_congr positive found (by omega)
  have pileAbove : isCommentLine markers (lineAt others (line - 1)) = true →
      gathered markers lines (line - 1 + depth) = gathered markers others (line - 1) := by
    intro isComment
    have inner : line - 1 ≠ 0 := by
      intro first
      rw [first, lineAt, isCommentLine_nil] at isComment
      cases isComment
    exact gathered_congr (by omega) found (by omega)
  unfold placed
  rw [placeAbove, placeNext, remarkAt_congr own, remarkAt_congr above, remarkAt_congr next,
    isCommentLine_congr own, isCommentLine_congr above, pile]
  by_cases isComment : isCommentLine markers (lineAt others (line - 1)) = true
  · rw [pileAbove isComment]
  · simp only [isComment]
    rfl

end Agreement

/-! ## The mode of a file -/

/-- The mode that a text's first line asks for. -/
def modeAsked (markers : List (List Char)) (lines : List (List Char)) : CheckMode :=
  match findComment markers (trim (lineAt lines 1)) with
  | none => .all
  | some (_, comment) => CheckMode.all.follow comment

section Mode

variable {name content : String} {markers : List String} {file : FixtureFile}

/-- Only the first line changes the mode of a file. -/
theorem mode_readLine {marks lines : List (List Char)} {next : FixtureFile} {text : List Char}
    {line : Nat} (read : FixtureFile.readLine marks lines file (text, line) = .ok next) :
    next.mode = if line = 1 then
        match findComment marks (trim text) with
        | none => file.mode
        | some (_, comment) => file.mode.follow comment
      else file.mode := by
  unfold FixtureFile.readLine at read
  cases found : findComment marks (trim text) with
  | none =>
    simp only [found] at read
    cases read
    simp
  | some pair =>
    simp only [found] at read
    obtain ⟨expectation, -, same⟩ := Runs.map_eq_ok.1 read
    rw [← same]
    by_cases first : line = 1 <;> by_cases empty : expectation.details.isEmpty <;>
      simp [first, empty]

/-- Once its first line was read, a file has the mode that this line asks for. -/
theorem mode_of_readUpTo {count : Nat}
    (read : FixtureFile.readUpTo name content markers (count + 1) = .ok file)
    (within : count < (linesOf content).length) :
    file.mode = modeAsked (markers.map String.toList) (linesOf content) := by
  induction count generalizing file with
  | zero =>
    rw [readUpTo_succ within, readUpTo_zero] at read
    have kept := mode_readLine read
    rw [if_pos rfl] at kept
    rw [kept, modeAsked]
  | succ count ih =>
    rw [readUpTo_succ within] at read
    obtain ⟨before, readBefore, step⟩ := Runs.bind_eq_ok.1 read
    have later : count + 1 + 1 ≠ 1 := by omega
    have kept := mode_readLine step
    rw [if_neg later] at kept
    rw [kept]
    exact ih readBefore (by omega)

/-- A file has the mode that its first line asks for. -/
theorem mode_of_ofSource (read : FixtureFile.ofSource name content markers = .ok file) :
    file.mode = modeAsked (markers.map String.toList) (linesOf content) := by
  have some := length_linesOf_pos content
  have last : (linesOf content).length - 1 + 1 = (linesOf content).length := by omega
  rw [← readUpTo_length, ← last] at read
  exact mode_of_readUpTo read (by omega)

end Mode

/-! ## Two texts -/

section Joined

variable {markers front rest : List (List Char)} {blank : List Char} {line : Nat}

/-- The lines above a blank line are found where they were, and so is the end of them. -/
theorem foundBelow_front (empty : trim blank = []) :
    FoundBelow (front ++ [blank] ++ rest) front 0 (front.length + 1) := by
  intro line within
  rw [Nat.add_zero, List.append_assoc]
  by_cases inside : line ≤ front.length
  · rw [lineAt_append_of_le _ _ inside]
  · have last : line = 1 + front.length := by omega
    have own : lineAt ([blank] ++ rest) 1 = blank := rfl
    rw [last, lineAt_append_add _ _ Nat.one_pos, own, empty, lineAt_of_length_lt (by omega)]
    rfl

/-- The lines below a blank line are found below it, and the blank line above them. -/
theorem foundBelow_rest (empty : trim blank = []) (last : Nat) :
    FoundBelow (front ++ [blank] ++ rest) rest (front.length + 1) last := by
  intro line _
  have depth : (front ++ [blank]).length = front.length + 1 := by simp
  by_cases first : line = 0
  · have place : line + (front.length + 1) = 1 + front.length := by omega
    have own : lineAt ([blank] ++ rest) 1 = blank := rfl
    rw [place, List.append_assoc, lineAt_append_add _ _ Nat.one_pos, own, empty, first]
    rfl
  · rw [← depth, lineAt_append_add _ _ (Nat.pos_of_ne_zero first)]

/-- Above a blank line everything belongs where it does without the lines below. -/
theorem placed_front (empty : trim blank = []) (positive : 0 < line)
    (within : line ≤ front.length + 1) :
    placed markers (front ++ [blank] ++ rest) line = placed markers front line := by
  have found : FoundBelow (front ++ [blank] ++ rest) front 0 (front.length + 1) :=
    foundBelow_front empty
  by_cases inside : line ≤ front.length
  · have near : FoundBelow (front ++ [blank] ++ rest) front 0 (line + 1) :=
      fun other before => found other (by omega)
    have same : placed markers (front ++ [blank] ++ rest) (line + 0) = placed markers front line :=
      placed_congr positive near
    rwa [Nat.add_zero] at same
  · have after : front.length < line := by omega
    have own := found line within
    rw [Nat.add_zero, lineAt_of_length_lt after] at own
    have same : gathered markers (front ++ [blank] ++ rest) (line + 0) =
        gathered markers front line := gathered_congr positive found (by omega)
    rw [Nat.add_zero] at same
    rw [placed_of_blank own, placed_of_length_lt after, same]

/-- Below a blank line everything belongs where it does without the lines above, so much further
down. -/
theorem placed_rest (empty : trim blank = []) (positive : 0 < line) :
    placed markers (front ++ [blank] ++ rest) (line + (front.length + 1)) =
      placed markers rest line :=
  placed_congr positive (foundBelow_rest empty (line + 1))

/-- The places of two texts with a blank line between them are those of the one, and those of the
other further down. -/
theorem ofLines_placed_joined (empty : trim blank = []) :
    LineIndex.ofLines (placed markers (front ++ [blank] ++ rest)) 1
        ((front ++ [blank] ++ rest).length + 1) =
      LineIndex.ofLines (placed markers front) 1 (front.length + 1) ++
        LineIndex.shift (LineIndex.ofLines (placed markers rest) 1 (rest.length + 1))
          (front.length + 1) := by
  have count : (front ++ [blank] ++ rest).length + 1 = front.length + 1 + (rest.length + 1) := by
    simp only [List.length_append, List.length_singleton]
    omega
  have upper : LineIndex.ofLines (placed markers (front ++ [blank] ++ rest)) 1 (front.length + 1) =
      LineIndex.ofLines (placed markers front) 1 (front.length + 1) := by
    apply LineIndex.ofLines_congr
    intro line first last
    exact placed_front empty first (by omega)
  have lower : LineIndex.ofLines (placed markers (front ++ [blank] ++ rest))
        (1 + (front.length + 1)) (rest.length + 1) =
      LineIndex.shift (LineIndex.ofLines (placed markers rest) 1 (rest.length + 1))
        (front.length + 1) := by
    apply LineIndex.ofLines_shift
    intro line first _
    exact placed_rest empty first
  rw [count, LineIndex.ofLines_append, upper, lower]

end Joined

/-- A text is read if the texts above and below a blank line of it are. -/
theorem exists_ofSource_joined {above below blank : String} {markers : List String}
    {upperName lowerName : String} {upper lower : FixtureFile}
    (readUpper : FixtureFile.ofSource upperName above markers = .ok upper)
    (readLower : FixtureFile.ofSource lowerName below markers = .ok lower)
    (isBlank : isAllBlank blank = true) (single : '\n' ∉ blank.toList) (name : String) :
    ∃ file, FixtureFile.ofSource name (above ++ "\n" ++ blank ++ "\n" ++ below) markers =
      .ok file := by
  have runs {name content : String} {file : FixtureFile}
      (read : FixtureFile.ofSource name content markers = .ok file) :
      ¬ ∃ fault, FixtureFile.ofSource name content markers = .error fault := by
    rw [read]
    simp
  apply Runs.exists_ok_iff.2
  rw [ofSource_fails_iff]
  rintro ⟨line, member, found, isFound, long⟩
  rw [linesOf_append, linesOf_append, List.mem_append, List.mem_append] at member
  rcases member with (inAbove | inBlank) | inBelow
  · exact runs readUpper (ofSource_fails_iff.2 ⟨line, inAbove, found, isFound, long⟩)
  · obtain ⟨own, lines, empty⟩ := linesOf_blank isBlank single
    rw [lines, List.mem_singleton] at inBlank
    rw [inBlank, empty, findComment_nil] at isFound
    cases isFound
  · exact runs readLower (ofSource_fails_iff.2 ⟨line, inBelow, found, isFound, long⟩)

/-- Two texts that are read are read with a blank line between them. Then the expectations of the
upper one stand where they stood, and those of the lower one below the blank line; no line has
expectations of both. The mode is that of the upper text. -/
theorem separated_by_blank_line {above below blank : String} {markers : List String}
    {upperName lowerName : String} {upper lower : FixtureFile}
    (readUpper : FixtureFile.ofSource upperName above markers = .ok upper)
    (readLower : FixtureFile.ofSource lowerName below markers = .ok lower)
    (isBlank : isAllBlank blank = true) (single : '\n' ∉ blank.toList) (name : String) :
    ∃ file, FixtureFile.ofSource name (above ++ "\n" ++ blank ++ "\n" ++ below) markers =
        .ok file ∧
      file.expectations =
        upper.expectations ++ lower.expectations.shift ((linesOf above).length + 1) ∧
      (upper.expectations.map Prod.fst).Disjoint
        ((lower.expectations.shift ((linesOf above).length + 1)).map Prod.fst) ∧
      file.mode = upper.mode := by
  obtain ⟨file, read⟩ := exists_ofSource_joined readUpper readLower isBlank single name
  obtain ⟨line, lines, empty⟩ := linesOf_blank isBlank single
  have joined : linesOf (above ++ "\n" ++ blank ++ "\n" ++ below) =
      linesOf above ++ [line] ++ linesOf below := by
    rw [linesOf_append, linesOf_append, lines]
  refine ⟨file, read, ?_, ?_, ?_⟩
  · rw [expectations_of_ofSource read, joined, ofLines_placed_joined empty,
      ← expectations_of_ofSource readUpper, ← expectations_of_ofSource readLower]
  · rw [expectations_of_ofSource readUpper, expectations_of_ofSource readLower]
    intro number inUpper inLower
    have up := LineIndex.bounds_of_mem_ofLines _ inUpper
    rw [LineIndex.shift, List.map_map] at inLower
    obtain ⟨entry, listed, same⟩ := List.mem_map.1 inLower
    have down := LineIndex.bounds_of_mem_ofLines _ (List.mem_map_of_mem listed)
    simp only [Function.comp_apply] at same
    omega
  · have some := length_linesOf_pos above
    have first : lineAt (linesOf above ++ [line] ++ linesOf below) 1 = lineAt (linesOf above) 1 := by
      rw [List.append_assoc, lineAt_append_of_le _ _ some]
    rw [mode_of_ofSource read, mode_of_ofSource readUpper, joined, modeAsked, modeAsked, first]

/-- A text under which an expectation waits for the line of code below. -/
def openAbove : String := "# scatr-ignore: A-1\n# [A-1]: 3"

/-- A text whose first line would be a directive, and whose code would take what waits above. -/
def openBelow : String := "# scatr-check: B-1\n# [B-1]\nf() # [A-1]: 5"

/-- The code of the lower text does not get what waits above the blank line. -/
theorem separated_by_blank_line_open : ∃ upper lower,
    FixtureFile.ofSource "above.py" openAbove ["#"] = .ok upper ∧
    FixtureFile.ofSource "below.py" openBelow ["#"] = .ok lower ∧
    isAllBlank " \r" = true ∧ '\n' ∉ " \r".toList ∧
    ∃ file, FixtureFile.ofSource "a.py" (openAbove ++ "\n" ++ " \r" ++ "\n" ++ openBelow) ["#"] =
        .ok file ∧
      file.expectations =
        upper.expectations ++ lower.expectations.shift ((linesOf openAbove).length + 1) ∧
      (upper.expectations.map Prod.fst).Disjoint
        ((lower.expectations.shift ((linesOf openAbove).length + 1)).map Prod.fst) ∧
      file.mode = upper.mode := by
  obtain ⟨upper, readUpper⟩ := exists_ofSource "above.py" openAbove ["#"] (by decide +kernel)
  obtain ⟨lower, readLower⟩ := exists_ofSource "below.py" openBelow ["#"] (by decide +kernel)
  have isBlank : isAllBlank " \r" = true := by decide +kernel
  have single : '\n' ∉ " \r".toList := by decide +kernel
  exact ⟨upper, lower, readUpper, readLower, isBlank, single,
    separated_by_blank_line readUpper readLower isBlank single "a.py"⟩

end LintBench
