import LintBench.Proofs.Expectation.Codes
import LintBench.Proofs.Fixture.Invariants
import LintBench.Proofs.Fixture.Separation

/-!
# Codes of fixtures

A fixture lists codes in two places: between brackets in its comments, and in the
directive on its first line. The two go by the same reader, so that the codes of both
are issue codes, and a directive lists exactly those of its tokens that are.
-/

namespace LintBench

open Text

/-! ## Directives -/

/-- Blanks at the end of a text do not change its pieces, as they are once each is trimmed. -/
theorem map_trim_splitOn_dropTrailingBlanks {separator : Char} (mark : isBlank separator = false)
    (text : List Char) :
    (splitOn separator (dropTrailingBlanks text)).map trim = (splitOn separator text).map trim := by
  induction text using List.reverseRecOn with
  | nil => rfl
  | append_singleton text c ih =>
    rw [dropTrailingBlanks_concat]
    split
    · rename_i blank
      have other : c ≠ separator := by
        rintro rfl
        exact Bool.false_ne_true (mark.symm.trans blank)
      obtain ⟨pieces, last, cut, longer⟩ := splitOn_concat other text
      rw [ih, cut, longer]
      simp [trim_concat_of_isBlank blank]
    · rfl

namespace CheckMode

/-- What a directive with a text after its keyword asks for: the pieces of the text, each trimmed,
as far as they are issue codes. -/
theorem ofComment?_directive {keyword : String} {mode : List String → CheckMode}
    (listed : (keyword, mode) ∈ directives) (text : List Char) :
    ofComment? (keyword.toList ++ text) =
      some (mode ((((splitOn ',' text).map trim).map String.ofList).filter isIssueCode)) := by
  have pieces : (splitOn ',' (dropTrailingBlanks text)).map trim = (splitOn ',' text).map trim :=
    map_trim_splitOn_dropTrailingBlanks (by decide) text
  simp only [directives, List.mem_cons, Prod.mk.injEq, List.not_mem_nil, or_false] at listed
  have whole : trim (keyword.toList ++ text) = keyword.toList ++ dropTrailingBlanks text := by
    rcases listed with ⟨rfl, -⟩ | ⟨rfl, -⟩
    · exact trim_append ⟨'s', rfl, by decide⟩ ⟨':', rfl, by decide⟩ text
    · exact trim_append ⟨'s', rfl, by decide⟩ ⟨':', rfl, by decide⟩ text
  have starts : keyword.toList.isPrefixOf (keyword.toList ++ dropTrailingBlanks text) = true := by
    simp
  have rest : (keyword.toList ++ dropTrailingBlanks text).drop keyword.length =
      dropTrailingBlanks text := by
    rw [← String.length_toList, List.drop_left]
  rw [← pieces, List.map_map]
  rcases listed with ⟨rfl, rfl⟩ | ⟨rfl, rfl⟩
  · simp only [ofComment?, whole, directives, List.findSome?_cons, starts, if_true, rest]
    rfl
  · have other : "scatr-check:".toList.isPrefixOf
        ("scatr-ignore:".toList ++ dropTrailingBlanks text) = false := rfl
    simp only [ofComment?, whole, directives, List.findSome?_cons, other, starts, if_true, rest]
    rfl

/-- A directive lists the codes that it is given, unless there are none. -/
theorem codes?_of_directive {keyword : String} {mode : List String → CheckMode}
    (listed : (keyword, mode) ∈ directives) (codes : List String) :
    (mode codes).codes? = if codes.isEmpty then none else some codes := by
  simp only [directives, List.mem_cons, Prod.mk.injEq, List.not_mem_nil, or_false] at listed
  rcases listed with ⟨-, rfl⟩ | ⟨-, rfl⟩ <;> rfl

/-- A directive keeps those of its tokens that are issue codes once they are trimmed. -/
theorem follow_directive {keyword : String} {mode : List String → CheckMode}
    (listed : (keyword, mode) ∈ directives) {tokens : List String}
    (free : ∀ token ∈ tokens, ',' ∉ token.toList) :
    CheckMode.all.follow (keyword ++ ",".intercalate tokens).toList =
      mode ((tokens.map trimmed).filter isIssueCode) := by
  have comma : ",".toList = [','] := rfl
  rw [follow, String.toList_append, String.toList_intercalate, comma, ofComment?_directive listed,
    Option.getD_some]
  cases tokens with
  | nil => rfl
  | cons token others =>
    have pieces : splitOn ',' ([','].intercalate ((token :: others).map String.toList)) =
        (token :: others).map String.toList :=
      splitOn_intercalate (by simp) (List.forall_mem_map.2 free)
    rw [pieces, List.map_map, List.map_map]
    rfl

/-- The codes that a comment limits a file to, or takes out, are issue codes. -/
theorem isIssueCode_of_ofComment? {comment : List Char} {mode : CheckMode}
    (found : ofComment? comment = some mode) :
    ∀ codes ∈ mode.codes?, ∀ code ∈ codes, isIssueCode code = true := by
  obtain ⟨⟨keyword, asked⟩, listed, same⟩ := List.exists_of_findSome?_eq_some found
  obtain ⟨-, same⟩ := Option.ite_none_right_eq_some.1 same
  intro codes isCodes code member
  rw [← Option.some.inj same, codes?_of_directive listed] at isCodes
  obtain ⟨-, same⟩ := Option.ite_none_left_eq_some.1 isCodes
  rw [← Option.some.inj same] at member
  exact (List.mem_filter.1 member).2

/-- Following a directive keeps to issue codes. -/
theorem isIssueCode_of_follow {mode : CheckMode}
    (lists : ∀ codes ∈ mode.codes?, ∀ code ∈ codes, isIssueCode code = true)
    (comment : List Char) :
    ∀ codes ∈ (mode.follow comment).codes?, ∀ code ∈ codes, isIssueCode code = true := by
  cases mode with
  | all =>
    rw [follow]
    cases found : ofComment? comment with
    | none => exact lists
    | some asked => exact isIssueCode_of_ofComment? found
  | only codes => exact lists
  | ignoring codes => exact lists

end CheckMode

/-! ## Files -/

/-- What lists issue codes still does when it has taken in what was gathered. -/
theorem Expectation.ListsCodes.takeIn {expectation : Expectation} (lists : expectation.ListsCodes)
    {other : Option Expectation} (listsOther : ∀ own ∈ other, own.ListsCodes) :
    (expectation.takeIn other).ListsCodes := by
  cases other with
  | none => exact lists
  | some own => exact lists.merge (listsOther own rfl)

/-- Placing what lists issue codes among such is keeping to issue codes. -/
theorem listsCodes_of_placeExpectation {markers lines : List (List Char)} {index : LineIndex}
    (lists : ∀ entry ∈ index, entry.2.ListsCodes) {expectation : Expectation}
    (own : expectation.ListsCodes) (line : Nat) (alone : Bool) :
    ∀ entry ∈ placeExpectation markers lines index line alone expectation,
      entry.2.ListsCodes := by
  have present : ∀ other ∈ index.present line alone, other.ListsCodes :=
    fun _ found => lists _ (LineIndex.mem_of_get? found)
  have stacked : ∀ other ∈ index.stacked markers lines line alone, other.ListsCodes :=
    fun _ found => lists _ (LineIndex.mem_of_get? (Option.mem_filter_iff.1 found).1)
  have whole := ((⟨own.details, own.raised⟩ : Expectation.ListsCodes
    { expectation with fromCommentLine := alone }).takeIn present).takeIn stacked
  intro entry member
  rw [placeExpectation_eq_takeIn] at member
  rcases LineIndex.mem_set member with rfl | listed
  · exact ⟨whole.details, whole.raised⟩
  · split at listed
    · exact lists entry (List.mem_filter.1 listed).1
    · exact lists entry listed

/-- Whether all codes of a file are issue codes, those that are expected in it and those that it is
limited to. -/
structure FixtureFile.ListsCodes (file : FixtureFile) : Prop where
  /-- Under every line issue codes are expected. -/
  expectations : ∀ entry ∈ file.expectations, entry.2.ListsCodes
  /-- The mode lists issue codes. -/
  mode : ∀ codes ∈ file.mode.codes?, ∀ code ∈ codes, isIssueCode code = true

namespace FixtureFile

variable {markers lines : List (List Char)} {file next : FixtureFile}

/-- Reading a line keeps a file to issue codes. -/
theorem ListsCodes.readLine (lists : file.ListsCodes) {text : List Char} {line : Nat}
    (read : FixtureFile.readLine markers lines file (text, line) = .ok next) :
    next.ListsCodes where
  expectations := by
    have stated : ∀ own, (remarkOf markers text).stated = some own → own.ListsCodes := by
      intro own states
      obtain ⟨comment, isRead⟩ := read_of_stated states
      exact Expectation.listsCodes_of_read isRead
    rw [expectations_readLine read]
    cases states : remarkOf markers text with
    | silent => exact lists.expectations
    | alone own =>
      exact listsCodes_of_placeExpectation lists.expectations (stated own (by rw [states]; rfl)) _ _
    | trailing own =>
      exact listsCodes_of_placeExpectation lists.expectations (stated own (by rw [states]; rfl)) _ _
  mode := by
    rw [mode_readLine read]
    split
    · split
      · exact lists.mode
      · exact CheckMode.isIssueCode_of_follow lists.mode _
    · exact lists.mode

/-- A fixture that was read lists issue codes only. -/
theorem listsCodes_of_ofSource {name content : String} {markers : List String}
    (read : ofSource name content markers = .ok file) : file.ListsCodes :=
  Runs.keeps_of_foldlM ListsCodes (fun _ _ _ lists step => lists.readLine step) read
    ⟨by simp, by simp [CheckMode.codes?]⟩

end FixtureFile

/-- The codes between brackets and those of directives are the same. A text between brackets is
read as a code without details exactly if it is an issue code; all codes in a fixture that was read
are issue codes, and one whose comments can be read is read; and a directive keeps, in their order,
those of its trimmed tokens that are issue codes, and lists none if there are none. -/
theorem same_codes_in_brackets_and_directives :
    (∀ token : String,
      Expectation.read? ("[" ++ token ++ "]") = .ok (some (.ofCode token)) ↔
        isIssueCode token = true) ∧
    (∀ name content markers,
      (∀ file, FixtureFile.ofSource name content markers = .ok file → file.ListsCodes) ∧
      (Readable (markers.map String.toList) (linesOf content) →
        ∃ file, FixtureFile.ofSource name content markers = .ok file)) ∧
    ∀ keyword mode, (keyword, mode) ∈ CheckMode.directives →
      ∀ tokens : List String, (∀ token ∈ tokens, ',' ∉ token.toList) →
        let codes := (tokens.map trimmed).filter isIssueCode
        CheckMode.all.follow (keyword ++ ",".intercalate tokens).toList = mode codes ∧
          (mode codes).codes? = if codes.isEmpty then none else some codes := by
  refine ⟨Expectation.read?_bracketed_iff, fun name content markers => ⟨fun file read => ?_, ?_⟩,
    fun keyword mode listed tokens free => ⟨?_, ?_⟩⟩
  · exact FixtureFile.listsCodes_of_ofSource read
  · exact exists_ofSource name content markers
  · exact CheckMode.follow_directive listed free
  · exact CheckMode.codes?_of_directive listed _

/-- A text with a directive, of which one token is no issue code, and with texts between brackets
that are none either. -/
def mixedCodes : String := "# scatr-check: A-1, so\nf() # [B-12345]; [C-x1]: 3"

/-- Codes with letters of other alphabets, and texts with brackets and blanks in them. -/
theorem same_codes_in_brackets_and_directives_mixed :
    Expectation.read? ("[" ++ "été_1-W1000" ++ "]") = .ok (some (.ofCode "été_1-W1000")) ∧
      Expectation.read? ("[" ++ "A-1]; [A-1" ++ "]") ≠ .ok (some (.ofCode "A-1]; [A-1")) ∧
      Readable (["#"].map String.toList) (linesOf mixedCodes) ∧
      (∃ file, FixtureFile.ofSource "a.py" mixedCodes ["#"] = .ok file ∧ file.ListsCodes) ∧
      ("scatr-ignore:", CheckMode.ignoring) ∈ CheckMode.directives ∧
      (∀ token ∈ [" A-1", "a b", "", "B-12345", "[C-2]", "\tC-W2\n "], ',' ∉ token.toList) ∧
      CheckMode.all.follow ("scatr-ignore:" ++
          ",".intercalate [" A-1", "a b", "", "B-12345", "[C-2]", "\tC-W2\n "]).toList =
        .ignoring ["A-1", "C-W2"] ∧
      (CheckMode.ignoring ["A-1", "C-W2"]).codes? = some ["A-1", "C-W2"] := by
  obtain ⟨brackets, files, directives⟩ := same_codes_in_brackets_and_directives
  have readable : Readable (["#"].map String.toList) (linesOf mixedCodes) := by decide +kernel
  obtain ⟨file, read⟩ := (files "a.py" mixedCodes ["#"]).2 readable
  have listed : ("scatr-ignore:", CheckMode.ignoring) ∈ CheckMode.directives := by
    simp [CheckMode.directives]
  have free : ∀ token ∈ [" A-1", "a b", "", "B-12345", "[C-2]", "\tC-W2\n "],
      ',' ∉ token.toList := by decide
  have kept : ([" A-1", "a b", "", "B-12345", "[C-2]", "\tC-W2\n "].map trimmed).filter
      isIssueCode = ["A-1", "C-W2"] := by decide +kernel
  have follows := directives "scatr-ignore:" .ignoring listed _ free
  simp only [kept] at follows
  have isCode : isIssueCode "été_1-W1000" = true := by decide +kernel
  have isNone : isIssueCode "A-1]; [A-1" ≠ true := by decide +kernel
  exact ⟨(brackets _).2 isCode, mt (brackets _).1 isNone, readable,
    ⟨file, read, (files _ _ _).1 file read⟩, listed, free, follows⟩

end LintBench
