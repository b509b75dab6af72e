import LintBench.Proofs.Expectation.Parting
import LintBench.Proofs.Fixture.Reading
import LintBench.Proofs.Fixture.Stacking

/-!
# Comments that take the whole line

A comment that takes its whole line is for the line below. Whether a line is such a
comment is asked in two ways: where an expectation is placed, of the first marker
that occurs anywhere in the line, and where expectations stack up, of any marker at
the start of the line. The two agree on every line with an expectation exactly if
the first marker starts all others that can start a line.
-/

namespace LintBench

open Text

/-! ## Where a line's expectation goes -/

/-- Whether what a line states lies under the next line, as that of a comment that takes the whole
line, and nothing lies under the line itself. -/
def FixtureFile.DocumentsBelow (file : FixtureFile) (line : Nat) (expectation : Expectation) :
    Prop :=
  file.expectations.get? line = none ∧
    ∃ whole, file.expectations.get? (line + 1) = some whole ∧ whole.fromCommentLine = true ∧
      ∀ code part, expectation.States code part → whole.States code part

/-- Whether what a line states lies under the line itself, as that of a trailing comment, and
nothing lies under the next line. -/
def FixtureFile.DocumentsItself (file : FixtureFile) (line : Nat) (expectation : Expectation) :
    Prop :=
  file.expectations.get? (line + 1) = none ∧
    ∃ whole, file.expectations.get? line = some whole ∧ whole.fromCommentLine = false ∧
      ∀ code part, expectation.States code part → whole.States code part

/-- Whether the first of the markers that occurs in a line stands at its start. -/
def LedByFirst (markers : List (List Char)) (line : List Char) : Prop :=
  ∃ before marker after, markers = before ++ marker :: after ∧ marker ≠ [] ∧ marker <+: line ∧
    ∀ other ∈ before, other ≠ [] → ¬ other <:+: line

/-- A line is led by the first marker in it exactly if it starts with the marker at which it is
cut. -/
theorem ledByFirst_iff_of_findComment {markers : List (List Char)} {line marker comment : List Char}
    (found : findComment markers line = some (marker, comment)) :
    LedByFirst markers line ↔ marker <+: line := by
  obtain ⟨before, after, split, nonempty, isAfter, earlier⟩ := findComment_eq_some_iff.1 found
  constructor
  · rintro ⟨before', leader, after', split', nonempty', starts, earlier'⟩
    obtain ⟨rest, isRest⟩ := exists_afterFirst_iff.2 starts.isInfix
    have led : findComment markers line = some (leader, rest) :=
      findComment_eq_some_iff.2 ⟨before', after', split', nonempty', isRest, earlier'⟩
    rw [found] at led
    cases led
    exact starts
  · exact fun starts => ⟨before, marker, after, split, nonempty, starts, earlier⟩

/-- A line that states something states it alone exactly if it is led by the first marker in it. -/
theorem isAlone_iff_ledByFirst {markers : List (List Char)} {line : List Char}
    {expectation : Expectation} (states : (remarkOf markers line).stated = some expectation) :
    (remarkOf markers line).isAlone = true ↔ LedByFirst markers (trim line) := by
  rcases remarkOf_cases markers line with silent | ⟨marker, _, _, found, _, _, same⟩
  · simp [silent, Remark.stated] at states
  · rw [ledByFirst_iff_of_findComment found, ← List.isPrefixOf_iff_prefix, same]
    cases marker.isPrefixOf (trim line) <;> simp [Remark.isAlone]

section Places

variable {markers lines : List (List Char)} {line : Nat} {expectation : Expectation}

/-- What a trailing comment places under its line states all that the comment states. -/
theorem states_placed_of_trailing (states : remarkAt markers lines line = .trailing expectation)
    {whole : Expectation} (found : placed markers lines line = some whole) {code : String}
    {part : Option Detail} (own : expectation.States code part) : whole.States code part := by
  have takenIn : ∀ above, (expectation.takeIn (gathered markers lines above)).States code part :=
    fun above => (states_takeIn_gathered_iff expectation).2 (.inl own)
  unfold placed at found
  rw [states] at found
  simp only at found
  split at found
  · cases found
    exact takenIn line
  · cases found
    exact own
  · split at found <;> cases found
    · exact takenIn (line - 1)
    · exact own

variable {file : FixtureFile}

/-- A comment that takes the whole line documents the line below as soon as it has been read. -/
theorem Holds.documentsBelow (holds : Holds markers lines line file.expectations)
    (states : remarkAt markers lines line = .alone expectation) :
    file.DocumentsBelow line expectation := by
  refine ⟨?_, _, holds.get?_next.trans (gathered_succ_of_alone markers lines states), rfl, ?_⟩
  · rw [holds.shows, placedAfter_self, states]
    simp [placed, states]
  · exact fun code part own => (states_takeIn_gathered_iff expectation).2 (.inl own)

/-- A trailing comment documents its own line as soon as it has been read. -/
theorem Holds.documentsItself (holds : Holds markers lines line file.expectations)
    (states : remarkAt markers lines line = .trailing expectation) :
    file.DocumentsItself line expectation := by
  obtain ⟨whole, found, trailing⟩ := placed_of_trailing states
  refine ⟨?_, whole, ?_, trailing, fun code part own => states_placed_of_trailing states found own⟩
  · rw [holds.get?_next, gathered_succ_of_not_alone markers lines (by simp [states])]
  · rw [holds.shows, placedAfter_self, states]
    exact found

/-- No line documents both itself and the line below. -/
theorem FixtureFile.DocumentsBelow.not_documentsItself
    (below : file.DocumentsBelow line expectation) : ¬ file.DocumentsItself line expectation := by
  rintro ⟨-, whole, found, -⟩
  rw [below.1] at found
  cases found

end Places

/-- What a line states goes under the line below if the line is led by the first marker in it, and
under the line itself if not. -/
theorem documents_iff {name content : String} {markers : List String} {count : Nat}
    {file : FixtureFile} (within : count < (linesOf content).length)
    (read : FixtureFile.readUpTo name content markers (count + 1) = .ok file)
    {expectation : Expectation}
    (states : (remarkAt (markers.map String.toList) (linesOf content) (count + 1)).stated =
      some expectation) :
    (file.DocumentsBelow (count + 1) expectation ↔
      LedByFirst (markers.map String.toList) (trim (lineAt (linesOf content) (count + 1)))) ∧
    (file.DocumentsItself (count + 1) expectation ↔
      ¬ LedByFirst (markers.map String.toList)
        (trim (lineAt (linesOf content) (count + 1)))) := by
  have holds := holds_of_readUpTo read within
  rw [← isAlone_iff_ledByFirst states, ← remarkAt]
  cases own : remarkAt (markers.map String.toList) (linesOf content) (count + 1) with
  | silent => simp [own, Remark.stated] at states
  | alone stated =>
    rw [own] at states
    cases states
    have below := holds.documentsBelow own
    simp [Remark.isAlone, below, below.not_documentsItself]
  | trailing stated =>
    rw [own] at states
    cases states
    have itself := holds.documentsItself own
    have notBelow : ¬ file.DocumentsBelow (count + 1) expectation :=
      fun below => below.not_documentsItself itself
    simp [Remark.isAlone, itself, notBelow]

/-! ## Which markers agree -/

/-- Whether a marker can occur in a line. -/
def usable (marker : List Char) : Bool := !marker.isEmpty && !marker.contains '\n'

/-- Whether a marker can start a line, which has lost its blanks. -/
def startsLines (marker : List Char) : Bool :=
  usable marker && marker.head?.all fun c => !isBlank c

/-- Whether the first marker that can occur in a line starts every other one that can start a
line. -/
def OneLeads (markers : List (List Char)) : Prop :=
  ∀ first ∈ (markers.filter usable).head?, ∀ marker ∈ markers.filter startsLines, first <+: marker

instance (markers : List (List Char)) : Decidable (OneLeads markers) :=
  inferInstanceAs (Decidable (∀ first ∈ (markers.filter usable).head?,
    ∀ marker ∈ markers.filter startsLines, first <+: marker))

/-- Whether everything that is stated on a comment line documents the line below, in every fixture
with these markers. -/
def AlwaysBelow (markers : List String) : Prop :=
  ∀ name content count file expectation, count < (linesOf content).length →
    FixtureFile.readUpTo name content markers (count + 1) = .ok file →
    (remarkAt (markers.map String.toList) (linesOf content) (count + 1)).stated = some expectation →
    isCommentLine (markers.map String.toList) (lineAt (linesOf content) (count + 1)) = true →
    file.DocumentsBelow (count + 1) expectation

/-- A marker can occur in a line if it is not empty and has no line end in it. -/
theorem usable_iff {marker : List Char} : usable marker = true ↔ marker ≠ [] ∧ '\n' ∉ marker := by
  simp [usable]

/-- A marker can start a line if it is not empty, has no line end in it, and starts with no blank.
-/
theorem startsLines_iff {marker : List Char} :
    startsLines marker = true ↔ usable marker = true ∧ ∀ c ∈ marker.head?, isBlank c = false := by
  cases marker <;> simp [startsLines]

/-- What starts a trimmed line starts with no blank. -/
theorem head_of_prefix_trim {marker line : List Char} (starts : marker <+: trim line) :
    ∀ c ∈ marker.head?, isBlank c = false := by
  intro c first
  obtain ⟨others, rfl⟩ := List.head?_eq_some_iff.1 first
  obtain ⟨rest, isRest⟩ := starts.trans (trim_prefix_skipBlanks line)
  have kept := List.head?_dropWhile_not isBlank line
  rw [← skipBlanks, ← isRest] at kept
  exact kept

/-- If one marker leads, a comment line is led by the first marker in it. -/
theorem OneLeads.ledByFirst {markers : List (List Char)} (leads : OneLeads markers)
    {line : List Char} (single : '\n' ∉ line) (comment : isCommentLine markers line = true) :
    LedByFirst markers (trim line) := by
  obtain ⟨marker, member, starts⟩ := List.any_eq_true.1 comment
  simp only [Bool.and_eq_true, Bool.not_eq_true', List.isEmpty_eq_false_iff,
    List.isPrefixOf_iff_prefix] at starts
  obtain ⟨nonempty, starts⟩ := starts
  have noLineEnd : ∀ part : List Char, part <:+: trim line → '\n' ∉ part := fun part inside found =>
    single ((inside.trans (trim_infix_self line)).subset found)
  have isUsable : usable marker = true := usable_iff.2 ⟨nonempty, noLineEnd marker starts.isInfix⟩
  have listed : marker ∈ markers.filter usable := List.mem_filter.2 ⟨member, isUsable⟩
  have canStart : startsLines marker = true :=
    startsLines_iff.2 ⟨isUsable, head_of_prefix_trim starts⟩
  cases kept : markers.filter usable with
  | nil => simp [kept] at listed
  | cons first others =>
    obtain ⟨before, after, split, unusable, firstUsable, -⟩ := List.filter_eq_cons_iff.1 kept
    have firstStarts : first <+: marker :=
      leads first (by rw [kept]; rfl) marker (List.mem_filter.2 ⟨member, canStart⟩)
    refine ⟨before, first, after, split, (usable_iff.1 firstUsable).1, firstStarts.trans starts,
      fun other listed filled inside => ?_⟩
    exact unusable other listed (usable_iff.2 ⟨filled, noLineEnd other inside⟩)

/-! ## Markers that do not agree -/

/-- After a text that does not start with a marker, one of two letters keeps the marker from
standing at the start. -/
theorem exists_mark {marker first : List Char} (apart : ¬ first <+: marker) :
    ∃ mark ∈ ['x', 'y'], ∀ rest, ¬ first <+: marker ++ mark :: rest := by
  by_cases longer : marker <+: first
  · obtain ⟨others, rfl⟩ := longer
    cases others with
    | nil => simp at apart
    | cons c others =>
      obtain ⟨mark, listed, other⟩ : ∃ mark ∈ ['x', 'y'], c ≠ mark := by
        by_cases same : c = 'x'
        · exact ⟨'y', by simp, by simp [same]⟩
        · exact ⟨'x', by simp, same⟩
      refine ⟨mark, listed, fun rest starts => ?_⟩
      rw [List.prefix_append_right_inj, List.cons_prefix_cons] at starts
      exact other starts.1
  · refine ⟨'x', by simp, fun rest starts => ?_⟩
    rcases List.prefix_or_prefix_of_prefix starts (List.prefix_append marker _) with short | long
    · exact apart short
    · exact longer long

/-- A comment that ends in a code after a semicolon states something, if there is no long number
before it. -/
theorem read_ending_in_code {front : List Char} (short : ¬ HasLongNumeral front) :
    ∃ expectation, Expectation.read (front ++ ";[A-1]".toList) = .ok expectation ∧
      expectation.details.isEmpty = false := by
  obtain ⟨own, read⟩ := Expectation.exists_read_iff.2 fun long => short long.hasLongNumeral
  have code : Expectation.read "[A-1]".toList =
      .ok { details := [("A-1", [])], raised := [("A-1", false)] } := by decide +kernel
  have parted : Expectation.read (front ++ ';' :: "[A-1]".toList) = _ :=
    Expectation.read_parted (.inr (by decide))
  rw [read, code] at parted
  refine ⟨_, parted, ?_⟩
  have states : (own.merge { details := [("A-1", [])], raised := [("A-1", false)] }).States
      "A-1" none :=
    (Expectation.states_merge (Expectation.fresh_of_read code).toDistinct "A-1" none).2
      (.inr ⟨[], rfl, by simp⟩)
  obtain ⟨details, listed, -⟩ := states
  rw [← Bool.not_eq_true, List.isEmpty_iff]
  intro nothing
  rw [nothing] at listed
  cases listed

/-- A code after a marker is read in every line that has two markers parted by a letter, if no
marker has too long a number in it. -/
theorem exists_read_after_first {marker first : List Char} {mark : Char}
    (notDigit : isDecimalDigit mark = false) (short : ¬ HasLongNumeral marker)
    (firstShort : ¬ HasLongNumeral first) :
    ∃ comment expectation,
      afterFirst first (marker ++ [mark] ++ (first ++ ";[A-1]".toList)) = some comment ∧
        Expectation.read comment = .ok expectation ∧ expectation.details.isEmpty = false := by
  obtain ⟨passed, inside, found⟩ :=
    exists_afterFirst_append (marker ++ [mark]) first ";[A-1]".toList
  have passedShort : ¬ HasLongNumeral passed := by
    intro long
    have whole := long.of_infix inside
    rw [List.append_assoc] at whole
    rcases whole.of_parted notDigit with left | right
    · exact short left
    · exact firstShort right
  obtain ⟨expectation, read, lists⟩ := read_ending_in_code passedShort
  exact ⟨_, expectation, found, read, lists⟩

/-- A line is cut at the first marker that can occur in a line, if that stands in it. -/
theorem findComment_of_first {before after : List (List Char)} {first line comment : List Char}
    (unusable : ∀ other ∈ before, ¬ usable other = true) (filled : first ≠ []) (single : '\n' ∉ line)
    (found : afterFirst first line = some comment) :
    findComment (before ++ first :: after) line = some (first, comment) :=
  findComment_eq_some_iff.2 ⟨before, after, rfl, filled, found, fun other listed nonempty inside =>
    unusable other listed (usable_iff.2 ⟨nonempty, fun lineEnd => single (inside.subset lineEnd)⟩)⟩

/-- If no marker leads, there is a comment line with an expectation at its end, which is cut at a
marker that it does not start with. -/
theorem exists_trailing_comment_line {markers : List (List Char)} (other : ¬ OneLeads markers)
    (short : ∀ marker ∈ markers, ¬ HasLongNumeral marker) :
    ∃ line expectation, '\n' ∉ line ∧ line.getLast? = some ']' ∧
      isCommentLine markers line = true ∧ remarkOf markers line = .trailing expectation ∧
      ∀ found ∈ findComment markers (trim line), Expectation.read found.2 = .ok expectation := by
  simp only [OneLeads, not_forall] at other
  obtain ⟨first, isFirst, marker, canStart, apart⟩ := other
  obtain ⟨others, kept⟩ := List.head?_eq_some_iff.1 isFirst
  obtain ⟨before, after, split, unusable, firstUsable, -⟩ := List.filter_eq_cons_iff.1 kept
  obtain ⟨member, starting⟩ := List.mem_filter.1 canStart
  obtain ⟨markerUsable, notBlank⟩ := startsLines_iff.1 starting
  obtain ⟨filled, single⟩ := usable_iff.1 markerUsable
  obtain ⟨firstFilled, firstSingle⟩ := usable_iff.1 firstUsable
  have firstMember : first ∈ markers := split ▸ List.mem_append_right before List.mem_cons_self
  obtain ⟨mark, isMark, notLed⟩ := exists_mark apart
  have letter : mark ≠ '\n' ∧ isDecimalDigit mark = false := by
    simp only [List.mem_cons, List.not_mem_nil, or_false] at isMark
    rcases isMark with rfl | rfl <;> decide
  obtain ⟨comment, expectation, isAfter, read, lists⟩ :=
    exists_read_after_first letter.2 (short marker member) (short first firstMember)
  generalize isLine : marker ++ [mark] ++ (first ++ ";[A-1]".toList) = line at isAfter
  have starts : marker <+: line := ⟨mark :: (first ++ ";[A-1]".toList), by rw [← isLine]; simp⟩
  have last : line.getLast? = some ']' := by
    rw [← isLine, ← List.append_assoc]
    exact List.mem_getLast?_append_of_mem_getLast? (by decide)
  have lineSingle : '\n' ∉ line := by
    rw [← isLine]
    simp [single, firstSingle, letter.1.symm]
  have trimmed : trim line = line := by
    refine trim_of_ends (fun c isHead => notBlank c ?_) ?_
    · obtain ⟨d, rest, rfl⟩ := List.exists_cons_of_ne_nil filled
      obtain ⟨_, rfl⟩ := starts
      exact isHead
    · rw [last]
      rintro _ ⟨rfl⟩
      decide
  have found : findComment markers line = some (first, comment) :=
    split ▸ findComment_of_first unusable firstFilled lineSingle isAfter
  have notStart : first.isPrefixOf line = false := by
    rw [← Bool.not_eq_true, List.isPrefixOf_iff_prefix, ← isLine, List.append_assoc]
    exact notLed _
  refine ⟨line, expectation, lineSingle, last, ?_, ?_, ?_⟩
  · exact List.any_eq_true.2 ⟨marker, member, by simp [filled, trimmed, starts]⟩
  · rw [remarkOf, trimmed, found]
    simp only [read, lists, notStart, Bool.false_eq_true, if_false]
  · rw [trimmed, found]
    rintro _ ⟨rfl⟩
    exact read

/-- If what is stated on a comment line always documents the line below, one marker leads. -/
theorem AlwaysBelow.oneLeads {markers : List String} (always : AlwaysBelow markers)
    (short : ∀ marker ∈ markers, ¬ HasLongNumeral marker.toList) :
    OneLeads (markers.map String.toList) := by
  by_contra other
  obtain ⟨line, expectation, single, last, comment, states, read⟩ :=
    exists_trailing_comment_line other (List.forall_mem_map.2 short)
  have lines : linesOf (String.ofList line) = [line] :=
    linesOf_ofList single (by rw [last]; decide)
  have readable : Readable (markers.map String.toList) (linesOf (String.ofList line)) := by
    intro own member found isFound
    rw [lines, List.mem_singleton] at member
    rw [read found (member ▸ isFound)]
    rfl
  obtain ⟨file, whole⟩ := exists_ofSource "" (String.ofList line) markers readable
  have within : 0 < (linesOf (String.ofList line)).length := by simp [lines]
  have once : FixtureFile.readUpTo "" (String.ofList line) markers (0 + 1) = .ok file := by
    rw [← whole, ← readUpTo_length, lines]
    rfl
  have own : lineAt (linesOf (String.ofList line)) (0 + 1) = line := by rw [lines]; rfl
  have stated : remarkAt (markers.map String.toList) (linesOf (String.ofList line)) (0 + 1) =
      .trailing expectation := by rw [remarkAt, own, states]
  have below := always "" (String.ofList line) 0 file expectation within once
    (by rw [stated]; rfl) (by rw [own]; exact comment)
  exact below.not_documentsItself ((holds_of_readUpTo once within).documentsItself stated)

/-- Where an expectation goes is decided by the first marker that occurs in its line: it is for the
line below if that marker starts the line, and else for its own line. So the expectation of a
comment line is always for the line below if one marker leads, and, unless a marker has too long a
number in it, only then. -/
theorem documented_below_iff (name content : String) (markers : List String) :
    (∀ count file expectation, count < (linesOf content).length →
      FixtureFile.readUpTo name content markers (count + 1) = .ok file →
      (remarkAt (markers.map String.toList) (linesOf content) (count + 1)).stated =
        some expectation →
      (file.DocumentsBelow (count + 1) expectation ↔
        LedByFirst (markers.map String.toList) (trim (lineAt (linesOf content) (count + 1)))) ∧
      (file.DocumentsItself (count + 1) expectation ↔
        ¬ LedByFirst (markers.map String.toList)
          (trim (lineAt (linesOf content) (count + 1))))) ∧
    (OneLeads (markers.map String.toList) → AlwaysBelow markers) ∧
    ((∀ marker ∈ markers, ¬ HasLongNumeral marker.toList) → AlwaysBelow markers →
      OneLeads (markers.map String.toList)) := by
  refine ⟨fun count file expectation within read states => documents_iff within read states,
    fun leads _ content count file expectation within read states comment => ?_,
    fun short always => always.oneLeads short⟩
  have inside : lineAt (linesOf content) (count + 1) ∈ linesOf content := by
    have own : lineAt (linesOf content) (count + 1) = (linesOf content)[count] := by
      simp [lineAt, List.getElem?_eq_getElem within]
    exact own ▸ List.getElem_mem within
  exact (documents_iff within read states).1.2
    (leads.ledByFirst (not_mem_of_mem_linesOf inside) comment)

/-- A comment line below which its expectation lies, where one marker starts the other. -/
theorem documented_below_longer_marker :
    FixtureFile.readUpTo "a.py" "/// [A-1]\nf()" ["//", "", "///"] (0 + 1) =
        .ok { name := "a", expectations := [(2, { details := [("A-1", [])]
                                                  raised := [("A-1", false)]
                                                  fromCommentLine := true })] } ∧
      LedByFirst (["//", "", "///"].map String.toList) "/// [A-1]".toList ∧
      FixtureFile.DocumentsBelow
        { name := "a", expectations := [(2, { details := [("A-1", [])]
                                              raised := [("A-1", false)]
                                              fromCommentLine := true })] }
        (0 + 1) { details := [("A-1", [])], raised := [("A-1", false)] } ∧
      AlwaysBelow ["//", "", "///"] ∧ OneLeads (["//", "", "///"].map String.toList) := by
  have read : FixtureFile.readUpTo "a.py" "/// [A-1]\nf()" ["//", "", "///"] (0 + 1) =
      .ok { name := "a", expectations := [(2, { details := [("A-1", [])]
                                                raised := [("A-1", false)]
                                                fromCommentLine := true })] } := by
    decide +kernel
  have states : (remarkAt (["//", "", "///"].map String.toList) (linesOf "/// [A-1]\nf()")
      (0 + 1)).stated = some { details := [("A-1", [])], raised := [("A-1", false)] } := by
    decide +kernel
  have led : LedByFirst (["//", "", "///"].map String.toList) "/// [A-1]".toList :=
    ⟨[], "//".toList, [[], "///".toList], by decide, by decide, by decide, by simp⟩
  have own : trim (lineAt (linesOf "/// [A-1]\nf()") (0 + 1)) = "/// [A-1]".toList := by
    decide +kernel
  have short : ∀ marker ∈ ["//", "", "///"], ¬ HasLongNumeral marker.toList := by
    intro marker member
    refine not_hasLongNumeral_of_length_le ?_
    revert marker
    decide
  obtain ⟨goes, leads, onlyThen⟩ :=
    documented_below_iff "a.py" "/// [A-1]\nf()" ["//", "", "///"]
  have below := goes 0 _ _ (by decide +kernel) read states
  rw [own] at below
  have always := leads (by decide +kernel)
  exact ⟨read, led, below.1.2 led, always, onlyThen short always⟩

/-- The first of two markers stands in the middle of the line, the other one at its start. -/
def markerInside : String := "// a # [A-1]"

/-- What is stated on a comment line lies under the line itself if the first marker in it does not
start it. -/
theorem comment_line_documents_itself :
    FixtureFile.ofSource "a.py" markerInside ["#", "//"] =
        .ok { name := "a", expectations := [(1, { details := [("A-1", [])]
                                                  raised := [("A-1", false)] })] } ∧
      isCommentLine (["#", "//"].map String.toList) (lineAt (linesOf markerInside) 1) = true ∧
      (remarkAt (["#", "//"].map String.toList) (linesOf markerInside) 1).stated =
        some { details := [("A-1", [])], raised := [("A-1", false)] } :=
  ⟨by decide +kernel, by decide +kernel, by decide +kernel⟩

end LintBench
