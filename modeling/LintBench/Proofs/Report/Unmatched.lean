import LintBench.Report.Message
import LintBench.Proofs.Issue.Normalizing
import Mathlib.Data.List.Perm.Subperm

/-!
# Warnings about files that are no fixtures

A file of a result that is no fixture is told once, at its first issue. Files that
resolve are told apart by the paths that they resolve to. Files that do not resolve
all have the empty path, and are taken for one file: of two of them only the first
one is told.
-/

namespace LintBench

/-! ## The issues that are told -/

section Told

variable {files seen : List String} {issues : List Issue}

/-- An issue of a fixture, or of a path that was met before, is passed over. -/
theorem unmatchedIssues_of_known {issue : Issue}
    (known : issue.position.resolved ∈ files ∨ issue.position.resolved ∈ seen) :
    unmatchedIssues files seen (issue :: issues) = unmatchedIssues files seen issues := by
  rw [unmatchedIssues, if_pos]
  simpa only [Bool.or_eq_true, List.contains_iff_mem] using known

/-- Any other issue is told, and its path has been met then. -/
theorem unmatchedIssues_of_new {issue : Issue}
    (new : ¬ (issue.position.resolved ∈ files ∨ issue.position.resolved ∈ seen)) :
    unmatchedIssues files seen (issue :: issues) =
      issue :: unmatchedIssues files (issue.position.resolved :: seen) issues := by
  rw [unmatchedIssues, if_neg]
  simpa only [Bool.or_eq_true, List.contains_iff_mem] using new

/-- The issues that are told are issues of the result, in its order. -/
theorem unmatchedIssues_sublist : (unmatchedIssues files seen issues).Sublist issues := by
  induction issues generalizing seen with
  | nil => exact .slnil
  | cons issue rest ih =>
    by_cases known : issue.position.resolved ∈ files ∨ issue.position.resolved ∈ seen
    · rw [unmatchedIssues_of_known known]
      exact ih.cons issue
    · rw [unmatchedIssues_of_new known]
      exact ih.cons_cons issue

/-- What is told has a path that is no fixture's and was not met before. -/
theorem fresh_of_mem_unmatchedIssues {issue : Issue}
    (told : issue ∈ unmatchedIssues files seen issues) :
    issue.position.resolved ∉ files ∧ issue.position.resolved ∉ seen := by
  induction issues generalizing seen with
  | nil => cases told
  | cons first rest ih =>
    by_cases known : first.position.resolved ∈ files ∨ first.position.resolved ∈ seen
    · rw [unmatchedIssues_of_known known] at told
      exact ih told
    · rw [unmatchedIssues_of_new known] at told
      rcases List.mem_cons.1 told with same | later
      · rw [same]
        exact not_or.1 known
      · obtain ⟨notFixture, notMet⟩ := ih later
        exact ⟨notFixture, fun met => notMet (List.mem_cons_of_mem _ met)⟩

/-- The issues that are told have different paths. -/
theorem nodup_unmatchedIssues :
    ((unmatchedIssues files seen issues).map fun issue => issue.position.resolved).Nodup := by
  induction issues generalizing seen with
  | nil => exact List.nodup_nil
  | cons first rest ih =>
    by_cases known : first.position.resolved ∈ files ∨ first.position.resolved ∈ seen
    · rw [unmatchedIssues_of_known known]
      exact ih
    · rw [unmatchedIssues_of_new known, List.map_cons, List.nodup_cons]
      refine ⟨fun again => ?_, ih⟩
      obtain ⟨other, told, same⟩ := List.mem_map.1 again
      apply (fresh_of_mem_unmatchedIssues told).2
      rw [same]
      exact List.mem_cons_self

/-- Every path of the result that is no fixture's and was not met before is told. -/
theorem exists_mem_unmatchedIssues {issue : Issue} (listed : issue ∈ issues)
    (notFixture : issue.position.resolved ∉ files) (notMet : issue.position.resolved ∉ seen) :
    ∃ told ∈ unmatchedIssues files seen issues,
      told.position.resolved = issue.position.resolved := by
  induction issues generalizing seen with
  | nil => cases listed
  | cons first rest ih =>
    by_cases known : first.position.resolved ∈ files ∨ first.position.resolved ∈ seen
    · rw [unmatchedIssues_of_known known]
      rcases List.mem_cons.1 listed with same | later
      · rw [← same] at known
        exact absurd known (not_or.2 ⟨notFixture, notMet⟩)
      · exact ih later notMet
    · rw [unmatchedIssues_of_new known]
      by_cases same : first.position.resolved = issue.position.resolved
      · exact ⟨first, List.mem_cons_self, same⟩
      · rcases List.mem_cons.1 listed with own | later
        · rw [own] at same
          exact absurd rfl same
        · have notNext : issue.position.resolved ∉ first.position.resolved :: seen :=
            List.not_mem_cons_of_ne_of_not_mem (Ne.symm same) notMet
          obtain ⟨told, member, found⟩ := ih later notNext
          exact ⟨told, List.mem_cons_of_mem _ member, found⟩

end Told

/-! ## Files -/

section Files

variable (tree : Tree) (codeDir : Path) (files : List String)

/-- Whether a file of a result resolves to a path with a text. -/
def Tree.ShowsAs (file : LooseText) (text : String) : Prop :=
  ∃ path, tree.NormalizesTo codeDir file (some path) ∧ path.toString = text

/-- Whether two files of a result are one: they are written alike, or resolve to one path. -/
def Tree.SameFile (one other : LooseText) : Prop :=
  one = other ∨ ∃ text, tree.ShowsAs codeDir one text ∧ tree.ShowsAs codeDir other text

/-- Whether a file of a result is one of the fixtures, which are told by their paths. -/
def Tree.ReportsFixture (file : LooseText) : Prop := ∃ text ∈ files, tree.ShowsAs codeDir file text

/-- Whether messages are warnings about the files of a result that are no fixtures, one for each of
them. -/
def WarnsOncePerFile (issues : List Issue) (messages : List Message) : Prop :=
  ∃ told : List Issue, told.Sublist issues ∧
    messages = told.map (fun issue => .warning (unmatchedWarning issue.position.file)) ∧
    (∀ issue ∈ told, ¬ tree.ReportsFixture codeDir files issue.position.file) ∧
    told.Pairwise (fun one other => ¬ tree.SameFile codeDir one.position.file other.position.file) ∧
    ∀ issue ∈ issues, ¬ tree.ReportsFixture codeDir files issue.position.file →
      ∃ other ∈ told, tree.SameFile codeDir issue.position.file other.position.file

/-- Whether the path of an issue is that of its file, or empty if that does not resolve. -/
def Issue.Located (issue : Issue) : Prop :=
  ∃ outcome, tree.NormalizesTo codeDir issue.position.file outcome ∧
    issue.position.resolved = (outcome.map Path.toString).getD ""

end Files

section Located

variable {tree : Tree} {codeDir : Path} {files : List String} {issues : List Issue}
  {issue other : Issue}

/-- The issues of a result have the paths of their files when it is read. -/
theorem located_of_readResult {document : Value}
    (read : readResult tree codeDir document = .ok issues) :
    ∀ issue ∈ issues, issue.Located tree codeDir := by
  obtain ⟨written, taken, later⟩ := Runs.bind_eq_ok.1 read
  have each := Runs.mapError_eq_ok.1 later
  intro issue listed
  obtain ⟨before, -, resolved⟩ := (Runs.mem_of_mapM each).1 listed
  obtain ⟨outcome, normalizes, same⟩ := Issue.resolveFile_eq_ok_iff.1 resolved
  rw [same]
  exact ⟨outcome, normalizes, rfl⟩

/-- A file normalizes to one outcome. -/
theorem Tree.NormalizesTo.unique {file : LooseText} {one other : Option Path}
    (first : tree.NormalizesTo codeDir file one) (second : tree.NormalizesTo codeDir file other) :
    one = other :=
  Except.ok.inj ((Tree.resolveReported_eq_ok_iff.2 first).symm.trans
    (Tree.resolveReported_eq_ok_iff.2 second))

/-- A path that a file resolves to has a text. -/
theorem Tree.ShowsAs.ne_empty {file : LooseText} {text : String}
    (resolves : tree.ShowsAs codeDir file text) : text ≠ "" := by
  obtain ⟨path, normalizes, shown⟩ := resolves
  cases normalizes with
  | leads leads =>
    obtain ⟨depth, place, -, same⟩ := leads
    intro empty
    rw [same, empty, ← String.toList_inj, Path.toList_toString_ofNames] at shown
    cases shown

namespace Issue.Located

/-- The file of an issue resolves to its path, unless that is empty. -/
theorem showsAs_iff (located : issue.Located tree codeDir) {text : String} :
    tree.ShowsAs codeDir issue.position.file text ↔
      issue.position.resolved ≠ "" ∧ issue.position.resolved = text := by
  obtain ⟨outcome, normalizes, same⟩ := located
  constructor
  · intro resolves
    have some := resolves.ne_empty
    obtain ⟨path, leads, shown⟩ := resolves
    rw [normalizes.unique leads] at same
    have own : issue.position.resolved = text := same.trans shown
    exact ⟨own ▸ some, own⟩
  · rintro ⟨some, own⟩
    cases outcome with
    | none => exact absurd same some
    | some path => exact ⟨path, normalizes, same.symm.trans own⟩

/-- The path of an issue is empty exactly if its file does not resolve. -/
theorem resolved_eq_empty_iff (located : issue.Located tree codeDir) :
    issue.position.resolved = "" ↔ tree.NormalizesTo codeDir issue.position.file none := by
  have resolves : issue.position.resolved ≠ "" →
      tree.ShowsAs codeDir issue.position.file issue.position.resolved :=
    fun some => located.showsAs_iff.2 ⟨some, rfl⟩
  obtain ⟨outcome, normalizes, same⟩ := located
  constructor
  · intro empty
    cases outcome with
    | none => exact normalizes
    | some path =>
      have shown : path.toString = "" := same.symm.trans empty
      exact absurd shown (Tree.ShowsAs.ne_empty ⟨path, normalizes, rfl⟩)
  · intro nowhere
    by_contra some
    obtain ⟨path, leads, -⟩ := resolves some
    cases leads.unique nowhere

/-- The path of an issue leads to a fixture if its resolved one is that of a fixture. -/
theorem reportsFixture_iff (located : issue.Located tree codeDir) :
    tree.ReportsFixture codeDir files issue.position.file ↔
      issue.position.resolved ≠ "" ∧ issue.position.resolved ∈ files := by
  simp only [Tree.ReportsFixture, located.showsAs_iff]
  constructor
  · rintro ⟨text, listed, some, same⟩
    exact ⟨some, same ▸ listed⟩
  · rintro ⟨some, listed⟩
    exact ⟨_, listed, some, rfl⟩

/-- The paths of two issues lead to the same file if they are the same or their resolved ones are.
-/
theorem sameFile_iff (located : issue.Located tree codeDir)
    (locatedOther : other.Located tree codeDir) :
    tree.SameFile codeDir issue.position.file other.position.file ↔
      issue.position.file = other.position.file ∨
        issue.position.resolved ≠ "" ∧ issue.position.resolved = other.position.resolved := by
  simp only [Tree.SameFile, located.showsAs_iff, locatedOther.showsAs_iff]
  constructor
  · rintro (alike | ⟨text, ⟨some, same⟩, -, sameOther⟩)
    · exact .inl alike
    · exact .inr ⟨some, same.trans sameOther.symm⟩
  · rintro (alike | ⟨some, same⟩)
    · exact .inl alike
    · exact .inr ⟨_, ⟨some, same⟩, same ▸ some, rfl⟩

/-- Files that are one have one path. -/
theorem resolved_eq_of_sameFile (located : issue.Located tree codeDir)
    (locatedOther : other.Located tree codeDir)
    (same : tree.SameFile codeDir issue.position.file other.position.file) :
    issue.position.resolved = other.position.resolved := by
  rcases (located.sameFile_iff locatedOther).1 same with alike | ⟨-, resolved⟩
  · obtain ⟨outcome, normalizes, own⟩ := located
    obtain ⟨outcomeOther, normalizesOther, ownOther⟩ := locatedOther
    rw [alike] at normalizes
    rw [own, ownOther, normalizes.unique normalizesOther]
  · exact resolved

end Issue.Located

/-! ## One warning for each file -/

variable (located : ∀ issue ∈ issues, issue.Located tree codeDir)

include located

/-- If there is at most one file that does not resolve, and it is no fixture, then the warnings are
one for each file. -/
theorem warnsOncePerFile_of_unresolved
    (alike : ∀ one ∈ issues, ∀ other ∈ issues, one.position.resolved = "" →
      other.position.resolved = "" → one.position.file = other.position.file)
    (outside : (∃ issue ∈ issues, issue.position.resolved = "") → "" ∉ files) :
    WarnsOncePerFile tree codeDir files issues (unmatchedMessages files issues) := by
  have within : (unmatchedIssues files [] issues).Sublist issues := unmatchedIssues_sublist
  have locatedTold : ∀ issue ∈ unmatchedIssues files [] issues, issue.Located tree codeDir :=
    fun issue told => located issue (within.subset told)
  refine ⟨unmatchedIssues files [] issues, within, rfl, fun issue told isFixture => ?_, ?_,
    fun issue listed notFixture => ?_⟩
  · have inFiles := ((locatedTold issue told).reportsFixture_iff.1 isFixture).2
    exact (fresh_of_mem_unmatchedIssues told).1 inFiles
  · have distinct : (unmatchedIssues files [] issues).Pairwise fun one other =>
        one.position.resolved ≠ other.position.resolved :=
      List.pairwise_map.1 nodup_unmatchedIssues
    apply distinct.imp_of_mem
    intro one other told toldOther different same
    exact different ((locatedTold one told).resolved_eq_of_sameFile
      (locatedTold other toldOther) same)
  · have new : issue.position.resolved ∉ files := by
      intro inFiles
      by_cases empty : issue.position.resolved = ""
      · rw [empty] at inFiles
        exact outside ⟨issue, listed, empty⟩ inFiles
      · exact notFixture ((located issue listed).reportsFixture_iff.2 ⟨empty, inFiles⟩)
    obtain ⟨other, told, same⟩ := exists_mem_unmatchedIssues listed new List.not_mem_nil
    refine ⟨other, told, ?_⟩
    apply ((located issue listed).sameFile_iff (locatedTold other told)).2
    by_cases empty : issue.position.resolved = ""
    · exact .inl (alike issue listed other (within.subset told) empty (same.trans empty))
    · exact .inr ⟨empty, same.symm⟩

/-- Issues that stand for all files, and are as many as the warnings, have the paths that the
warnings are about, each of them once. -/
theorem perm_of_warnsOncePerFile {told : List Issue} (within : told.Sublist issues)
    (count : (unmatchedMessages files issues).length = told.length)
    (covered : ∀ issue ∈ issues, ¬ tree.ReportsFixture codeDir files issue.position.file →
      ∃ other ∈ told, tree.SameFile codeDir issue.position.file other.position.file) :
    ((unmatchedIssues files [] issues).map fun issue => issue.position.resolved).Perm
      (told.map fun issue => issue.position.resolved) := by
  have inside : ((unmatchedIssues files [] issues).map fun issue => issue.position.resolved) ⊆
      told.map fun issue => issue.position.resolved := by
    intro resolved member
    obtain ⟨issue, own, same⟩ := List.mem_map.1 member
    have listed : issue ∈ issues := unmatchedIssues_sublist.subset own
    have notFixture : ¬ tree.ReportsFixture codeDir files issue.position.file := by
      intro isFixture
      exact (fresh_of_mem_unmatchedIssues own).1
        ((located issue listed).reportsFixture_iff.1 isFixture).2
    obtain ⟨other, toldOther, one⟩ := covered issue listed notFixture
    have listedOther := located other (within.subset toldOther)
    rw [← same, (located issue listed).resolved_eq_of_sameFile listedOther one]
    exact List.mem_map_of_mem toldOther
  apply (List.Nodup.subperm nodup_unmatchedIssues inside).perm_of_length_le
  rw [unmatchedMessages, List.length_map] at count
  rw [List.length_map, List.length_map]
  exact Nat.le_of_eq count.symm

/-- If the warnings are one for each file, then there is at most one file that does not resolve, and
it is no fixture. -/
theorem unresolved_of_warnsOncePerFile
    (once : WarnsOncePerFile tree codeDir files issues (unmatchedMessages files issues)) :
    (∀ one ∈ issues, ∀ other ∈ issues, one.position.resolved = "" →
      other.position.resolved = "" → one.position.file = other.position.file) ∧
    ((∃ issue ∈ issues, issue.position.resolved = "") → "" ∉ files) := by
  obtain ⟨told, within, messages, -, -, covered⟩ := once
  have count : (unmatchedMessages files issues).length = told.length := by
    rw [messages, List.length_map]
  have same := perm_of_warnsOncePerFile located within count covered
  have named : ∀ issue ∈ issues, issue.position.resolved = "" →
      ∃ other ∈ told, other.position.resolved = "" ∧ issue.position.file = other.position.file := by
    intro issue listed empty
    have notFixture : ¬ tree.ReportsFixture codeDir files issue.position.file := fun isFixture =>
      ((located issue listed).reportsFixture_iff.1 isFixture).1 empty
    obtain ⟨other, toldOther, one⟩ := covered issue listed notFixture
    have locatedOther := located other (within.subset toldOther)
    refine ⟨other, toldOther, ?_, ?_⟩
    · rw [← (located issue listed).resolved_eq_of_sameFile locatedOther one, empty]
    · exact (((located issue listed).sameFile_iff locatedOther).1 one).resolve_right
        fun resolved => resolved.1 empty
  constructor
  · intro one listed other listedOther empty emptyOther
    obtain ⟨first, toldFirst, emptyFirst, alike⟩ := named one listed empty
    obtain ⟨second, toldSecond, emptySecond, alikeOther⟩ := named other listedOther emptyOther
    have distinct := same.nodup_iff.1 nodup_unmatchedIssues
    have equal : first = second := List.inj_on_of_nodup_map distinct toldFirst toldSecond
      (emptyFirst.trans emptySecond.symm)
    rw [alike, alikeOther, equal]
  · rintro ⟨issue, listed, empty⟩
    obtain ⟨other, toldOther, emptyOther, -⟩ := named issue listed empty
    have member : "" ∈ (unmatchedIssues files [] issues).map fun issue => issue.position.resolved := by
      rw [same.mem_iff, ← emptyOther]
      exact List.mem_map_of_mem toldOther
    obtain ⟨unmatched, own, emptyOwn⟩ := List.mem_map.1 member
    rw [← emptyOwn]
    exact (fresh_of_mem_unmatchedIssues own).1

end Located

/-- The warnings about the files of a result that are no fixtures are one for each of them exactly
if those that do not resolve are all written alike, and none of the fixtures has an empty path if
there is such a file. -/
theorem warned_once_per_file_iff {tree : Tree} {codeDir : Path} {document : Value}
    {issues : List Issue} (read : readResult tree codeDir document = .ok issues)
    (files : List String) :
    WarnsOncePerFile tree codeDir files issues (unmatchedMessages files issues) ↔
      (∀ one ∈ issues, ∀ other ∈ issues, tree.NormalizesTo codeDir one.position.file none →
        tree.NormalizesTo codeDir other.position.file none →
          one.position.file = other.position.file) ∧
      ((∃ issue ∈ issues, tree.NormalizesTo codeDir issue.position.file none) → "" ∉ files) := by
  have located := located_of_readResult read
  have nowhere (issue : Issue) (listed : issue ∈ issues) :
      issue.position.resolved = "" ↔ tree.NormalizesTo codeDir issue.position.file none :=
    (located issue listed).resolved_eq_empty_iff
  constructor
  · intro once
    obtain ⟨alike, outside⟩ := unresolved_of_warnsOncePerFile located once
    constructor
    · intro one listed other listedOther unresolved unresolvedOther
      exact alike one listed other listedOther ((nowhere one listed).2 unresolved)
        ((nowhere other listedOther).2 unresolvedOther)
    · rintro ⟨issue, listed, unresolved⟩
      exact outside ⟨issue, listed, (nowhere issue listed).2 unresolved⟩
  · rintro ⟨alike, outside⟩
    apply warnsOncePerFile_of_unresolved located
    · intro one listed other listedOther empty emptyOther
      exact alike one listed other listedOther ((nowhere one listed).1 empty)
        ((nowhere other listedOther).1 emptyOther)
    · rintro ⟨issue, listed, empty⟩
      exact outside ⟨issue, listed, (nowhere issue listed).1 empty⟩

namespace LinkedFiles

/-- Every spelling of the path of the link leads to the file. -/
theorem leads_spelled (written : String)
    (same : codeDir / Path.ofString written = codeDir / Path.ofString "c.go") :
    tree.NormalizesTo codeDir (.ofString written) (some (.ofNames ["a.go"])) := by
  apply Tree.NormalizesTo.leads
  rw [same]
  exact resolves_chain

/-- The path leads nowhere. -/
theorem breaks_gone : tree.NormalizesTo codeDir (.ofString "gone.go") none :=
  .breaks rfl breaks_missing

/-- The path leads nowhere. -/
theorem breaks_lost : tree.NormalizesTo codeDir (.ofString "lost.go") none := by
  have missing : tree.nodeAt ["lost.go"] = .error .missing :=
    Tree.nodeAt_of_missing (by decide) tree.enterable_nil rfl
  exact .breaks rfl (.blocked [] [] [] (by decide) (by decide) missing)

/-- The issues of a written result are read with the paths that they are normalized to. -/
theorem readResult_resultOfIssues {issues results : List Issue}
    (each : List.Forall₂ (Issue.NormalizedTo tree codeDir) (issues.map Issue.unresolved) results) :
    readResult tree codeDir (resultOfIssues issues) = .ok results := by
  rw [readResult_of_issues (issuesOfValue_resultOfIssues issues), Runs.mapError_eq_ok,
    Runs.mapM_eq_ok_iff]
  simpa only [Issue.resolveFile_eq_ok_iff] using each

/-- Issues in the file behind the links, in two spellings, and in a file that is not there. -/
def oneMissing : List Issue :=
  [fileIssue "c.go" "/a.go", fileIssue "gone.go" "", fileIssue "./c.go" "/a.go",
    fileIssue "gone.go" ""]

/-- Issues in two files that are not there. -/
def twoMissing : List Issue := [fileIssue "gone.go" "", fileIssue "lost.go" ""]

/-- The result is read as its issue. -/
theorem read_oneMissing : readResult tree codeDir (resultOfIssues oneMissing) = .ok oneMissing := by
  have gone : (fileIssue "gone.go" "").NormalizedTo tree codeDir (fileIssue "gone.go" "") :=
    ⟨_, breaks_gone, rfl⟩
  have chain : (fileIssue "c.go" "").NormalizedTo tree codeDir (fileIssue "c.go" "/a.go") :=
    ⟨_, leads_spelled "c.go" rfl, rfl⟩
  have spelled : (fileIssue "./c.go" "").NormalizedTo tree codeDir (fileIssue "./c.go" "/a.go") :=
    ⟨_, leads_spelled "./c.go" (by decide), rfl⟩
  exact readResult_resultOfIssues (.cons chain (.cons gone (.cons spelled (.cons gone .nil))))

/-- The result is read as its issues. -/
theorem read_twoMissing : readResult tree codeDir (resultOfIssues twoMissing) = .ok twoMissing := by
  have gone : (fileIssue "gone.go" "").NormalizedTo tree codeDir (fileIssue "gone.go" "") :=
    ⟨_, breaks_gone, rfl⟩
  have lost : (fileIssue "lost.go" "").NormalizedTo tree codeDir (fileIssue "lost.go" "") :=
    ⟨_, breaks_lost, rfl⟩
  exact readResult_resultOfIssues (.cons gone (.cons lost .nil))

end LinkedFiles

open LinkedFiles in
/-- A file in two spellings and a file that is not there are told once each. -/
theorem warned_once_per_file_iff_spelled :
    readResult tree codeDir (resultOfIssues oneMissing) = .ok oneMissing ∧
      unmatchedMessages [] oneMissing =
        [.warning (unmatchedWarning (.ofString "c.go")),
          .warning (unmatchedWarning (.ofString "gone.go"))] ∧
      WarnsOncePerFile tree codeDir [] oneMissing (unmatchedMessages [] oneMissing) := by
  refine ⟨read_oneMissing, rfl, ?_⟩
  apply (warned_once_per_file_iff read_oneMissing []).2
  have missing : ∀ issue ∈ oneMissing, tree.NormalizesTo codeDir issue.position.file none →
      issue.position.file = .ofString "gone.go" := by
    have named : ∀ issue ∈ oneMissing, issue.position.resolved = "" →
        issue.position.file = .ofString "gone.go" := by decide
    intro issue listed unresolved
    have located := located_of_readResult read_oneMissing issue listed
    exact named issue listed (located.resolved_eq_empty_iff.2 unresolved)
  refine ⟨fun one listed other listedOther unresolved unresolvedOther => ?_, fun _ => by decide⟩
  rw [missing one listed unresolved, missing other listedOther unresolvedOther]

open LinkedFiles in
/-- Of two files that are not there only the first one is told. -/
theorem second_missing_file_is_not_told :
    readResult tree codeDir (resultOfIssues twoMissing) = .ok twoMissing ∧
      unmatchedMessages [] twoMissing = [.warning (unmatchedWarning (.ofString "gone.go"))] ∧
      ¬ WarnsOncePerFile tree codeDir [] twoMissing (unmatchedMessages [] twoMissing) := by
  refine ⟨read_twoMissing, rfl, fun once => ?_⟩
  have alike := (unresolved_of_warnsOncePerFile (located_of_readResult read_twoMissing) once).1
  exact absurd (alike (fileIssue "gone.go" "") (by simp [twoMissing]) (fileIssue "lost.go" "")
    (by simp [twoMissing]) rfl rfl) (by decide)

end LintBench
