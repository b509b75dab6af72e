import LintBench.Proofs.Expectation.LongColumns
import LintBench.Proofs.Fixture.Lines
import LintBench.Proofs.Fixture.Placement

/-!
# Reading a fixture to its end

A fixture is read line by line, and its reading ends early for one reason only: a
comment in it has a column with too many digits. Where the reading looks at an
earlier line, that line exists.
-/

namespace LintBench

open Text

/-! ## The reading so far -/

/-- A fixture as far as it has been read after a number of lines. -/
def FixtureFile.readUpTo (name content : String) (markers : List String) (count : Nat) :
    Except GrammarError FixtureFile :=
  (((linesOf content).take count).zipIdx 1).foldlM
    (FixtureFile.readLine (markers.map String.toList) (linesOf content))
    { name := (Path.ofString name).stem }

section Progress

variable {name content : String} {markers : List String}

/-- Before its first line a fixture has a name and nothing else. -/
theorem readUpTo_zero :
    FixtureFile.readUpTo name content markers 0 = .ok { name := (Path.ofString name).stem } := rfl

/-- After its last line a fixture has been read. -/
theorem readUpTo_length :
    FixtureFile.readUpTo name content markers (linesOf content).length =
      FixtureFile.ofSource name content markers := by
  rw [FixtureFile.readUpTo, List.take_length]
  rfl

/-- One more line is read after those before it. -/
theorem readUpTo_succ {count : Nat} (within : count < (linesOf content).length) :
    FixtureFile.readUpTo name content markers (count + 1) =
      FixtureFile.readUpTo name content markers count >>= fun file =>
        FixtureFile.readLine (markers.map String.toList) (linesOf content) file
          (lineAt (linesOf content) (count + 1), count + 1) := by
  have own : lineAt (linesOf content) (count + 1) = (linesOf content)[count] := by
    simp [lineAt, List.getElem?_eq_getElem within]
  have taken : ((linesOf content).take count).length = count :=
    List.length_take_of_le (Nat.le_of_lt within)
  rw [FixtureFile.readUpTo, List.take_succ_eq_append_getElem within, List.zipIdx_append, taken,
    List.foldlM_append, own, Nat.add_comm 1 count]
  congr 1
  funext file
  simp

/-- After a number of lines everything is where it belongs then. -/
theorem holds_of_readUpTo {count : Nat} {file : FixtureFile}
    (read : FixtureFile.readUpTo name content markers count = .ok file)
    (within : count ≤ (linesOf content).length) :
    Holds (markers.map String.toList) (linesOf content) count file.expectations := by
  induction count generalizing file with
  | zero =>
    rw [readUpTo_zero] at read
    have start := Except.ok.inj read
    rw [← start]
    exact holds_nil
  | succ count ih =>
    rw [readUpTo_succ within] at read
    obtain ⟨before, readBefore, step⟩ := Runs.bind_eq_ok.1 read
    exact (ih readBefore (Nat.le_of_succ_le within)).readLine rfl step

end Progress

/-! ## Lines that are looked up -/

/-- The line that the expectation of a line is for: the next one if its comment takes the whole
line. -/
def targetOf (line : Nat) (alone : Bool) : Nat := if alone then line + 1 else line

/-- If something lies above the place of an expectation, the line that is looked up for it is one
of the lines of the text. -/
theorem Holds.lookup_inside {markers lines : List (List Char)} {count : Nat} {index : LineIndex}
    (holds : Holds markers lines count index) (within : count < lines.length) {alone : Bool}
    (above : (index.get? (targetOf (count + 1) alone - 1)).isSome) :
    2 ≤ targetOf (count + 1) alone ∧ targetOf (count + 1) alone - 2 < lines.length := by
  have notFirst : targetOf (count + 1) alone - 1 ≠ 0 := by
    intro first
    rw [first, holds.get?_zero] at above
    cases above
  have near : targetOf (count + 1) alone ≤ count + 2 := by
    unfold targetOf
    split <;> omega
  omega

/-- Whether the reading of a fixture asks for nothing that there is not. -/
structure StaysInside (name content : String) (markers : List String) : Prop where
  /-- The marker at which a line is cut is one of the markers, and no empty one. -/
  cut : ∀ line ∈ linesOf content, ∀ found ∈ findComment (markers.map String.toList) (trim line),
    found.1 ∈ markers.map String.toList ∧ found.1 ≠ [] ∧ found.1 <:+: trim line
  /-- The line that is looked up, if something lies above the place of an expectation, is one of the
  lines of the text. -/
  lookup : ∀ count file alone, FixtureFile.readUpTo name content markers count = .ok file →
    count < (linesOf content).length →
    (file.expectations.get? (targetOf (count + 1) alone - 1)).isSome →
    2 ≤ targetOf (count + 1) alone ∧ targetOf (count + 1) alone - 2 < (linesOf content).length

/-- The reading of a fixture asks for nothing that there is not. -/
theorem staysInside (name content : String) (markers : List String) :
    StaysInside name content markers where
  cut line _ found isFound := by
    obtain ⟨before, after, split, nonempty, isAfter, -⟩ := findComment_eq_some_iff.1 isFound
    exact ⟨by simp [split], nonempty, exists_afterFirst_iff.1 ⟨_, isAfter⟩⟩
  lookup count file alone read within above :=
    (holds_of_readUpTo read (Nat.le_of_lt within)).lookup_inside within above

/-! ## Faults -/

section Faults

variable {markers lines : List (List Char)}

/-- A line is not read exactly if a column in its comment is too long, whatever was read before. -/
theorem readLine_fails_iff (file : FixtureFile) (numbered : List Char × Nat) :
    (∃ fault, FixtureFile.readLine markers lines file numbered = .error fault) ↔
      ∃ found ∈ findComment markers (trim numbered.1), HasLongColumn found.2 := by
  obtain ⟨text, line⟩ := numbered
  unfold FixtureFile.readLine
  cases found : findComment markers (trim text) with
  | none => simp [found]
  | some pair =>
    obtain ⟨marker, comment⟩ := pair
    simp only [found, Option.mem_some_iff, exists_eq_left', ← Expectation.read_fails_iff]
    cases Expectation.read comment <;> simp [Except.map]

end Faults

/-- A fixture is not read exactly if a comment in it has a column that is too long. -/
theorem ofSource_fails_iff {name content : String} {markers : List String} :
    (∃ fault, FixtureFile.ofSource name content markers = .error fault) ↔
      ∃ line ∈ linesOf content, ∃ found ∈ findComment (markers.map String.toList) (trim line),
        HasLongColumn found.2 := by
  have numbered : ((linesOf content).zipIdx 1).map Prod.fst = linesOf content :=
    List.zipIdx_map_fst 1 _
  refine (Runs.foldlM_fails_iff readLine_fails_iff).trans ⟨?_, ?_⟩
  · rintro ⟨entry, member, long⟩
    exact ⟨entry.1, numbered ▸ List.mem_map_of_mem member, long⟩
  · rintro ⟨line, member, long⟩
    rw [← numbered] at member
    obtain ⟨entry, listed, rfl⟩ := List.mem_map.1 member
    exact ⟨entry, listed, long⟩

/-- A text without a long row of digits has no comment with a column that is too long. -/
theorem not_hasLongColumn_of_content {content : String} (short : ¬ HasLongNumeral content.toList)
    {markers : List (List Char)} {line : List Char} (member : line ∈ linesOf content)
    {marker comment : List Char}
    (found : findComment markers (trim line) = some (marker, comment)) :
    ¬ HasLongColumn comment := by
  intro long
  obtain ⟨_, _, _, _, isAfter, _⟩ := findComment_eq_some_iff.1 found
  have inside := (suffix_of_afterFirst isAfter).isInfix
  exact short (long.hasLongNumeral.of_infix
    (inside.trans ((trim_infix_self line).trans (infix_of_mem_linesOf member))))

/-- A comment and a fixture are read unless a column is read in them that has more digits than a
numeral may have; in particular if they have no such row of digits at all. On the way nothing is
asked for that there is not. -/
theorem read_unless_column_too_long (comment name content : String) (markers : List String) :
    ((∃ found, Expectation.read? comment = .ok found) ↔ ¬ HasLongColumn comment.toList) ∧
    (¬ HasLongNumeral comment.toList → ∃ found, Expectation.read? comment = .ok found) ∧
    ((∃ file, FixtureFile.ofSource name content markers = .ok file) ↔
      ∀ line ∈ linesOf content, ∀ found ∈ findComment (markers.map String.toList) (trim line),
        ¬ HasLongColumn found.2) ∧
    (¬ HasLongNumeral content.toList →
      ∃ file, FixtureFile.ofSource name content markers = .ok file) ∧
    StaysInside name content markers := by
  have ofComment : (∃ found, Expectation.read? comment = .ok found) ↔
      ¬ HasLongColumn comment.toList := by
    rw [← Expectation.exists_read_iff]
    unfold Expectation.read?
    cases Expectation.read comment.toList <;> simp [Except.map]
  have ofContent : (∃ file, FixtureFile.ofSource name content markers = .ok file) ↔
      ∀ line ∈ linesOf content, ∀ found ∈ findComment (markers.map String.toList) (trim line),
        ¬ HasLongColumn found.2 := by
    rw [Runs.exists_ok_iff, ofSource_fails_iff]
    push Not
    rfl
  exact ⟨ofComment, fun short => ofComment.2 fun long => short long.hasLongNumeral, ofContent,
    fun short => ofContent.2 fun line member found isFound =>
      not_hasLongColumn_of_content short member isFound, staysInside name content markers⟩

/-- A text without long numbers is read, whatever else is wrong with it. -/
theorem read_unless_column_too_long_garbled :
    ¬ HasLongNumeral "[A-1]: 3 \"open [B-1]; ]".toList ∧
      (∃ found, Expectation.read? "[A-1]: 3 \"open [B-1]; ]" = .ok found) ∧
      ¬ HasLongNumeral "# [A-1]: \\\n[ # ]:".toList ∧
      ∃ file, FixtureFile.ofSource "" "# [A-1]: \\\n[ # ]:" ["", "#"] = .ok file := by
  have comment : ¬ HasLongNumeral "[A-1]: 3 \"open [B-1]; ]".toList :=
    not_hasLongNumeral_of_length_le (by decide)
  have content : ¬ HasLongNumeral "# [A-1]: \\\n[ # ]:".toList :=
    not_hasLongNumeral_of_length_le (by decide)
  obtain ⟨-, ofComment, -, ofContent, -⟩ := read_unless_column_too_long
    "[A-1]: 3 \"open [B-1]; ]" "" "# [A-1]: \\\n[ # ]:" ["", "#"]
  exact ⟨comment, ofComment comment, content, ofContent content⟩

/-- A file of one comment with a column that is too long is not read. -/
theorem ofSource_of_hasLongColumn (name : String) {comment : List Char}
    (long : HasLongColumn comment) (single : '\n' ∉ comment)
    (last : ∃ c ∈ comment.getLast?, isBlank c = false) :
    FixtureFile.ofSource name (String.ofList ('#' :: comment)) ["#"] = .error .columnTooLong := by
  obtain ⟨c, ends, notBlank⟩ := last
  have final : ('#' :: comment).getLast? = some c := by
    rw [List.getLast?_cons, ends]
    rfl
  have lines : linesOf (String.ofList ('#' :: comment)) = ['#' :: comment] := by
    refine linesOf_ofList (by simpa using single) ?_
    rw [final]
    rintro ⟨rfl⟩
    exact absurd notBlank (by decide)
  have trimmed : trim ('#' :: comment) = '#' :: comment := by
    refine trim_of_ends (by rintro _ ⟨rfl⟩; decide) ?_
    rw [final]
    rintro _ ⟨rfl⟩
    exact notBlank
  have found : findComment (["#"].map String.toList) ('#' :: comment) = some (['#'], comment) :=
    findComment_eq_some_iff.2 ⟨[], [], rfl, by simp, by simp [afterFirst], by simp⟩
  have fails : ∃ fault, FixtureFile.ofSource name (String.ofList ('#' :: comment)) ["#"] =
      .error fault := by
    rw [ofSource_fails_iff]
    refine ⟨'#' :: comment, lines ▸ List.mem_singleton_self _, (['#'], comment), ?_, long⟩
    rw [trimmed]
    exact found
  obtain ⟨fault, failed⟩ := fails
  exact failed

/-- A code in brackets with a column of one digit more than a numeral may have. -/
def longColumn : List Char := "[A-1]: ".toList ++ List.replicate 4301 '1'

/-- A column that is too long stops the reading of its comment and of its file. -/
theorem long_column_is_not_read :
    Expectation.read? (String.ofList longColumn) = .error .columnTooLong ∧
      FixtureFile.ofSource "a.py" (String.ofList ('#' :: longColumn)) ["#"] =
        .error .columnTooLong := by
  have ones : ∀ c ∈ List.replicate 4301 '1', isDecimalDigit c = true := by
    intro c member
    rw [List.eq_of_mem_replicate member]
    decide
  have more : digitLimit < (List.replicate 4301 '1').length := by
    rw [List.length_replicate]
    decide
  have long : HasLongColumn longColumn := hasLongColumn_of_digits ones more
  constructor
  · obtain ⟨fault, failed⟩ := Expectation.read_fails_iff.2 long
    rw [Expectation.read?, String.toList_ofList, failed]
    rfl
  · refine ofSource_of_hasLongColumn "a.py" long ?_ ⟨'1', ?_, by decide⟩
    · intro member
      rcases List.mem_append.1 member with front | digit
      · exact absurd front (by decide)
      · exact absurd (List.eq_of_mem_replicate digit) (by decide)
    · refine List.mem_getLast?_append_of_mem_getLast? ?_
      rw [List.getLast?_replicate, if_neg (by decide)]
      exact Option.mem_some_self '1'

end LintBench
