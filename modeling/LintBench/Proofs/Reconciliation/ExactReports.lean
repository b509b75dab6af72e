import LintBench.Proofs.Reconciliation.Reference

/-!
# Exact reports

A report that gives each thing the fixtures list exactly once leaves nothing
unexpected. It meets a detail, though, only if no earlier detail of the same code
accepts the same issue: the search for a detail starts anew with every issue and
stops at the first one that accepts it. Then no other report meets it either.
-/

namespace LintBench

/-! ## Details that others shadow -/

/-- No detail accepts what a later one asks for. -/
def Unshadowed (details : List Detail) : Prop :=
  details.Pairwise fun earlier later =>
    earlier.accepts later.column (.ofString later.message) = false

instance (details : List Detail) : Decidable (Unshadowed details) :=
  inferInstanceAs (Decidable (details.Pairwise fun earlier later =>
    earlier.accepts later.column (.ofString later.message) = false))

/-- A detail accepts an issue if its column and its message do. -/
theorem Detail.accepts_iff {detail : Detail} {column : Int} {message : LooseText} :
    detail.accepts column message = true ↔
      (detail.column = 0 ∨ detail.column = column) ∧
        (detail.message = "" ∨ .ofString detail.message = message) := by
  simp [accepts]

/-- A detail accepts what it asks for. -/
theorem Detail.accepts_own (detail : Detail) :
    detail.accepts detail.column (.ofString detail.message) = true :=
  accepts_iff.2 ⟨.inr rfl, .inr rfl⟩

/-- A detail that accepts what another one asks for accepts all that the other accepts. -/
theorem Detail.accepts_trans {earlier later : Detail} {column : Int} {message : LooseText}
    (shadows : earlier.accepts later.column (.ofString later.message) = true)
    (accepted : later.accepts column message = true) :
    earlier.accepts column message = true := by
  obtain ⟨ownColumn, ownMessage⟩ := accepts_iff.1 shadows
  obtain ⟨laterColumn, laterMessage⟩ := accepts_iff.1 accepted
  refine accepts_iff.2 ⟨?_, ?_⟩
  · rcases ownColumn with any | same
    · exact .inl any
    · exact same ▸ laterColumn
  · rcases ownMessage with any | same
    · exact .inl any
    · exact LooseText.ofString_injective same ▸ laterMessage

/-- If every detail is the first one to accept some issue, none is shadowed. -/
theorem unshadowed_of_first {details : List Detail}
    (first : ∀ place < details.length, ∃ issue : Issue,
      details.findIdx? issue.fits = some place) : Unshadowed details := by
  refine List.pairwise_iff_getElem.2 fun earlier later _ inside before => ?_
  obtain ⟨issue, found⟩ := first later inside
  obtain ⟨_, accepted, none⟩ := List.findIdx?_eq_some_iff_getElem.1 found
  by_contra shadows
  rw [Bool.not_eq_false] at shadows
  exact none earlier before (Detail.accepts_trans shadows accepted)

/-- Among details that are not shadowed each is the first one to accept what it asks for. -/
theorem first_of_unshadowed {details : List Detail} (unshadowed : Unshadowed details)
    {place : Nat} {detail : Detail} (present : details[place]? = some detail) {issue : Issue}
    (column : issue.position.start.column = detail.column)
    (title : issue.title = .ofString detail.message) :
    details.findIdx? issue.fits = some place := by
  obtain ⟨inside, rfl⟩ := List.getElem?_eq_some_iff.1 present
  refine List.findIdx?_eq_some_iff_getElem.2 ⟨inside, ?_, fun earlier before => ?_⟩
  · rw [Issue.fits, column, title]
    exact Detail.accepts_own _
  · have apart := List.pairwise_iff_getElem.1 unshadowed earlier place
      (Nat.lt_trans before inside) inside before
    rw [Issue.fits, column, title, apart]
    exact Bool.false_ne_true

namespace Expectation

/-- A detail is awaited after a run of issues if none of them has it as the first detail of their
code to accept them. -/
theorem mem_awaitedDetails_iff {expectation : Expectation} {issues : List Issue} {code : String}
    {detail : Detail} :
    (code, detail) ∈ expectation.awaitedDetails issues ↔
      ∃ details, (code, details) ∈ expectation.details ∧
        ∃ place : Nat, details[place]? = some detail ∧
          ∀ issue ∈ issues, issue.code = .ofString code →
            details.findIdx? issue.fits ≠ some place := by
  simp only [awaitedDetails, List.mem_flatMap, List.mem_map, List.mem_filter, Prod.exists,
    Prod.mk.injEq, List.mem_zipIdx_iff_getElem?, Bool.not_eq_true', List.any_eq_false,
    Bool.and_eq_true, decide_eq_true_eq, not_and]
  constructor
  · rintro ⟨_, details, listed, found, place, ⟨present, unmet⟩, rfl, rfl⟩
    exact ⟨details, listed, place, present, unmet⟩
  · rintro ⟨details, listed, place, present, unmet⟩
    exact ⟨code, details, listed, detail, place, ⟨present, unmet⟩, rfl, rfl⟩

/-- A code is awaited after a run of issues if it has no details and none of them is of it. -/
theorem mem_awaitedCodes_iff {expectation : Expectation} {issues : List Issue} {code : String}
    {detail : Detail} :
    (code, detail) ∈ expectation.awaitedCodes issues ↔
      (code, []) ∈ expectation.details ∧ detail = .anything ∧
        ∀ issue ∈ issues, issue.code ≠ .ofString code := by
  simp only [awaitedCodes, comesUp, List.mem_map, List.mem_filter, Prod.exists, Prod.mk.injEq,
    Bool.and_eq_true, List.isEmpty_iff, Bool.not_eq_true', List.any_eq_false, decide_eq_true_eq]
  constructor
  · rintro ⟨_, _, ⟨listed, rfl, absent⟩, rfl, rfl⟩
    exact ⟨listed, rfl, absent⟩
  · rintro ⟨listed, rfl, absent⟩
    exact ⟨code, [], ⟨listed, rfl, absent⟩, rfl, rfl⟩

end Expectation

/-- In the codes that take part in the verdict no detail is shadowed. -/
def FixtureFile.Unshadowed (file : FixtureFile) : Prop :=
  ∀ entry ∈ file.expectations, ∀ listed ∈ entry.2.details,
    file.mode.admits (.ofString listed.1) = true → LintBench.Unshadowed listed.2

instance (file : FixtureFile) : Decidable file.Unshadowed :=
  inferInstanceAs (Decidable (∀ entry ∈ file.expectations, ∀ listed ∈ entry.2.details,
    file.mode.admits (.ofString listed.1) = true → LintBench.Unshadowed listed.2))

/-! ## What a report gives -/

/-- One thing that the fixtures list: a detail of a code, or a code without details. -/
structure Listing where
  /-- The path of the file. -/
  path : String
  /-- The line it is expected on. -/
  line : Nat
  /-- The code. -/
  code : String
  /-- The detail, if the code has any. -/
  detail : Option Detail

/-- Whether an issue gives what is listed, with the column and the message of its detail. -/
structure Issue.Gives (issue : Issue) (listing : Listing) : Prop where
  /-- The path is that of the file. -/
  path : issue.position.resolved = listing.path
  /-- The line is the expected one. -/
  line : issue.isOn listing.line = true
  /-- The code is the expected one. -/
  code : issue.code = .ofString listing.code
  /-- Column and message are those of the detail. -/
  detail : ∀ detail ∈ listing.detail,
    issue.position.start.column = detail.column ∧ issue.title = .ofString detail.message

/-- What the fixtures list. -/
def listings (files : Keyed FixtureFile) : List Listing :=
  files.flatMap fun (path, file) =>
    file.expectations.flatMap fun (line, expectation) =>
      expectation.details.flatMap fun (code, details) =>
        if details.isEmpty then [⟨path, line, code, none⟩]
        else details.map fun detail => ⟨path, line, code, some detail⟩

/-- A report is exact if it gives everything that is listed once, in whatever order, and nothing
else. -/
def ReportsExactly (files : Keyed FixtureFile) (issues : List Issue) : Prop :=
  ∃ arranged, List.Forall₂ (fun listing issue => Issue.Gives issue listing) (listings files)
    arranged ∧ arranged.Perm issues

/-- What is listed for a code: its details, or else the code. -/
theorem mem_listings_iff {files : Keyed FixtureFile} {listing : Listing} :
    listing ∈ listings files ↔
      ∃ file, (listing.path, file) ∈ files ∧
        ∃ expectation, (listing.line, expectation) ∈ file.expectations ∧
          ∃ details, (listing.code, details) ∈ expectation.details ∧
            (details = [] ∧ listing.detail = none ∨
              ∃ detail ∈ details, listing.detail = some detail) := by
  obtain ⟨path, line, code, part⟩ := listing
  simp only [listings, List.mem_flatMap, Prod.exists]
  constructor
  · rintro ⟨_, file, here, _, expectation, stated, _, details, listed, given⟩
    cases details with
    | nil =>
      simp only [List.isEmpty_nil, if_true, List.mem_singleton, Listing.mk.injEq] at given
      obtain ⟨rfl, rfl, rfl, rfl⟩ := given
      exact ⟨file, here, expectation, stated, [], listed, .inl ⟨rfl, rfl⟩⟩
    | cons first rest =>
      simp only [List.isEmpty_cons, Bool.false_eq_true, if_false, List.mem_map,
        Listing.mk.injEq] at given
      obtain ⟨detail, member, rfl, rfl, rfl, rfl⟩ := given
      exact ⟨file, here, expectation, stated, _, listed, .inr ⟨detail, member, rfl⟩⟩
  · rintro ⟨file, here, expectation, stated, details, listed, given⟩
    refine ⟨path, file, here, line, expectation, stated, code, details, listed, ?_⟩
    rcases given with ⟨rfl, none⟩ | ⟨detail, member, some⟩
    · cases none
      exact List.mem_singleton.2 rfl
    · cases some
      rw [if_neg (by simpa using List.ne_nil_of_mem member)]
      exact List.mem_map_of_mem member

/-- An exact report has an issue for everything that is listed. -/
theorem ReportsExactly.exists_issue {files : Keyed FixtureFile} {issues : List Issue}
    (exact : ReportsExactly files issues) {listing : Listing} (listed : listing ∈ listings files) :
    ∃ issue ∈ issues, issue.Gives listing := by
  obtain ⟨arranged, given, same⟩ := exact
  simp only [← same.mem_iff]
  clear same
  generalize listings files = all at given listed
  induction given with
  | nil => cases listed
  | cons gives _ ih =>
    rcases List.mem_cons.1 listed with rfl | later
    · exact ⟨_, List.mem_cons_self, gives⟩
    · obtain ⟨issue, member, givesLater⟩ := ih later
      exact ⟨issue, List.mem_cons_of_mem _ member, givesLater⟩

/-- Every issue of an exact report gives something that is listed. -/
theorem ReportsExactly.exists_listing {files : Keyed FixtureFile} {issues : List Issue}
    (exact : ReportsExactly files issues) {issue : Issue} (reported : issue ∈ issues) :
    ∃ listing ∈ listings files, issue.Gives listing := by
  obtain ⟨arranged, given, same⟩ := exact
  rw [← same.mem_iff] at reported
  clear same
  generalize listings files = all at given ⊢
  induction given with
  | nil => cases reported
  | cons gives _ ih =>
    rcases List.mem_cons.1 reported with rfl | later
    · exact ⟨_, List.mem_cons_self, gives⟩
    · obtain ⟨listing, member, givesLater⟩ := ih later
      exact ⟨listing, List.mem_cons_of_mem _ member, givesLater⟩

/-! ## The verdict on an exact report -/

section Verdict

variable {files : Keyed FixtureFile} {issues : List Issue}

/-- If a report leaves nothing awaited in the verdict, no detail that takes part in it is
shadowed. -/
theorem unshadowed_of_notRaised_nil {included : List String} {path : String} {file : FixtureFile}
    (found : Keyed.get? files path = some file)
    (nothing : (referenceAt files included issues path).notRaised = []) : file.Unshadowed := by
  intro (line, expectation) stated (code, details) listed admitted
  refine unshadowed_of_first fun place inside => ?_
  by_contra unmet
  rw [not_exists] at unmet
  have awaited : (line, code, details[place]) ∈ file.awaited (issuesAt path issues) :=
    List.mem_flatMap.2 ⟨_, stated, List.mem_map.2 ⟨_, List.mem_append_left _
      (Expectation.mem_awaitedDetails_iff.2 ⟨details, listed, place,
        List.getElem?_eq_getElem inside, fun issue _ _ => unmet issue⟩), rfl⟩⟩
  simp only [referenceAt, found, List.map_eq_nil_iff, List.filter_eq_nil_iff] at nothing
  exact nothing _ awaited admitted

/-- A promoted file states what the file stated before. -/
theorem exists_of_get?_promoteFiles (distinct : (Keyed.keys files).Nodup)
    {codes : List LooseText} {path : String} {file : FixtureFile}
    (found : Keyed.get? (promoteFiles files codes) path = some file) :
    ∃ own, (path, own) ∈ files ∧ file.expectations = own.expectations := by
  rw [promoteFiles, Keyed.get?_map_value fun _ (file : FixtureFile) => file.promote codes] at found
  obtain ⟨own, present, rfl⟩ := Option.map_eq_some_iff.1 found
  exact ⟨own, (Keyed.get?_eq_some_iff distinct path own).1 present, own.expectations_promote codes⟩

/-- An exact report leaves nothing awaited in the verdict if no detail in it is shadowed. -/
theorem ReportsExactly.notRaised_nil (exact : ReportsExactly files issues)
    (distinct : (Keyed.keys files).Nodup) {included : List String} {path : String}
    (unshadowed : ∀ file,
      Keyed.get? (promoteFiles files (issueCodes issues)) path = some file → file.Unshadowed) :
    (referenceAt (promoteFiles files (issueCodes issues)) included issues path).notRaised = [] := by
  unfold referenceAt
  cases found : Keyed.get? (promoteFiles files (issueCodes issues)) path with
  | none => rfl
  | some file =>
    obtain ⟨own, here, same⟩ := exists_of_get?_promoteFiles distinct found
    simp only [List.map_eq_nil_iff, List.filter_eq_nil_iff]
    intro (line, code, detail) awaited admitted
    obtain ⟨⟨_, expectation⟩, stated, part⟩ := List.mem_flatMap.1 awaited
    obtain ⟨_, part, equal⟩ := List.mem_map.1 part
    cases equal
    have given : ∀ {listing : Listing} {issue : Issue}, issue ∈ issues → issue.Gives listing →
        listing.path = path → listing.line = line →
        issue ∈ (issuesAt path issues).filter fun issue => issue.isOn line := by
      rintro listing issue reported gives rfl rfl
      exact List.mem_filter.2 ⟨List.mem_filter.2 ⟨reported, by simp [gives.path]⟩, gives.line⟩
    rcases List.mem_append.1 part with part | part
    · obtain ⟨details, listed, place, present, unmet⟩ := Expectation.mem_awaitedDetails_iff.1 part
      have inListings : ⟨path, line, code, some detail⟩ ∈ listings files :=
        mem_listings_iff.2 ⟨own, here, expectation, same ▸ stated, details, listed,
          .inr ⟨detail, List.mem_of_getElem? present, rfl⟩⟩
      obtain ⟨issue, reported, gives⟩ := exact.exists_issue inListings
      obtain ⟨column, title⟩ := gives.detail detail rfl
      have clear := unshadowed file found _ stated _ listed admitted
      exact unmet issue (given reported gives rfl rfl) gives.code
        (first_of_unshadowed clear present column title)
    · obtain ⟨listed, -, absent⟩ := Expectation.mem_awaitedCodes_iff.1 part
      have inListings : ⟨path, line, code, none⟩ ∈ listings files :=
        mem_listings_iff.2 ⟨own, here, expectation, same ▸ stated, [], listed, .inl ⟨rfl, rfl⟩⟩
      obtain ⟨issue, reported, gives⟩ := exact.exists_issue inListings
      exact absent issue (given reported gives rfl rfl) gives.code

/-- No issue of an exact report is unexpected. -/
theorem ReportsExactly.unexpected_nil (exact : ReportsExactly files issues)
    (distinct : (Keyed.keys files).Nodup) (included : List String) (path : String) :
    (referenceAt (promoteFiles files (issueCodes issues)) included issues path).unexpected =
      [] := by
  simp only [referenceAt, List.filter_eq_nil_iff, Bool.not_eq_true]
  intro issue reported
  obtain ⟨⟨own, line, code, part⟩, listed, gives⟩ :=
    exact.exists_listing (List.mem_of_mem_filter reported)
  obtain ⟨file, here, expectation, stated, details, listed, given⟩ := mem_listings_iff.1 listed
  have found := (Keyed.get?_eq_some_iff distinct own file).2 here
  have awaited : (file.promote (issueCodes issues)).awaits issue = true := by
    rw [FixtureFile.awaits, file.expectations_promote]
    refine List.any_eq_true.2 ⟨_, stated, Bool.and_eq_true_iff.2 ⟨gives.line,
      List.any_eq_true.2 ⟨_, listed, Bool.and_eq_true_iff.2 ⟨decide_eq_true gives.code, ?_⟩⟩⟩⟩
    rcases given with ⟨empty, -⟩ | ⟨detail, member, some⟩
    · simp [empty]
    · obtain ⟨column, title⟩ := gives.detail detail some
      refine Bool.or_eq_true_iff.2 (.inr (List.any_eq_true.2 ⟨detail, member, ?_⟩))
      rw [Issue.fits, column, title]
      exact detail.accepts_own
  unfold isUnexpected
  rw [gives.path, promoteFiles, Keyed.get?_map_value fun _ (file : FixtureFile) =>
    file.promote (issueCodes issues), found]
  simp [awaited]

/-- If a report passes, no detail that takes part in the verdict is shadowed. -/
theorem unshadowed_of_passed (distinct : (Keyed.keys files).Nodup)
    (fresh : ∀ entry ∈ files, entry.2.Fresh)
    (passed : (reconcile files [] [] issues).passed = true) :
    ∀ entry ∈ promoteFiles files (issueCodes issues), entry.2.Unshadowed := by
  intro (path, file) member
  have keys := keys_promoteFiles files (issueCodes issues)
  have found := (Keyed.get?_eq_some_iff (keys ▸ distinct) path file).2 member
  have listed : path ∈ diffPaths files [] issues := by
    refine (mem_diffPaths_iff [] issues).2 ⟨rfl, .inl ?_⟩
    rw [← keys]
    exact List.mem_map_of_mem member
  have nothing := (passed_reconcile_iff [] [] issues distinct fresh).1 passed
  rw [failures_reconcile_of_fresh [] [] issues distinct fresh] at nothing
  exact unshadowed_of_notRaised_nil found (nothing _ (List.mem_map_of_mem listed)).2

end Verdict

/-- Nothing in an exact report is unexpected, and it passes without any failure exactly if no
detail that takes part in the verdict is shadowed. No other report passes with a shadowed one. -/
theorem exact_report_passes_iff (files : Keyed FixtureFile) (issues : List Issue)
    (distinct : (Keyed.keys files).Nodup)
    (read : ∀ entry ∈ files, ∃ name content markers,
      FixtureFile.ofSource name content markers = .ok entry.2)
    (exact : ReportsExactly files issues) :
    (∀ entry ∈ (reconcile files [] [] issues).failures, entry.2.unexpected = []) ∧
      (((reconcile files [] [] issues).passed = true ∧
          ∀ entry ∈ (reconcile files [] [] issues).failures,
            entry.2.unexpected = [] ∧ entry.2.notRaised = []) ↔
        ∀ entry ∈ promoteFiles files (issueCodes issues), entry.2.Unshadowed) ∧
      ∀ report, (reconcile files [] [] report).passed = true →
        ∀ entry ∈ promoteFiles files (issueCodes report), entry.2.Unshadowed := by
  have fresh := fresh_of_read read
  have expected : ∀ entry ∈ (reconcile files [] [] issues).failures, entry.2.unexpected = [] := by
    rw [failures_reconcile_of_fresh [] [] issues distinct fresh]
    intro entry member
    obtain ⟨path, -, rfl⟩ := List.mem_map.1 member
    exact exact.unexpected_nil distinct [] path
  refine ⟨expected, ⟨fun passed => unshadowed_of_passed distinct fresh passed.1, ?_⟩,
    fun report => unshadowed_of_passed distinct fresh⟩
  intro unshadowed
  have raised : ∀ entry ∈ (reconcile files [] [] issues).failures, entry.2.notRaised = [] := by
    rw [failures_reconcile_of_fresh [] [] issues distinct fresh]
    intro entry member
    obtain ⟨path, -, rfl⟩ := List.mem_map.1 member
    refine exact.notRaised_nil distinct fun file found => unshadowed (path, file) ?_
    have keys := keys_promoteFiles files (issueCodes issues)
    exact (Keyed.get?_eq_some_iff (keys ▸ distinct) path file).1 found
  have nothing := fun entry member => And.intro (expected entry member) (raised entry member)
  exact ⟨(passed_reconcile_iff [] [] issues distinct fresh).2 nothing, nothing⟩

/-- An issue at a line and column of one file. -/
def issueIn (line : Nat) (code : String) (column : Int) (title : String) : Issue :=
  { code := code
    title := title
    position := { start := { line := line, column := column }, resolved := "/a" } }

/-- A line that expects a code with a message and then without one, and a code without details. -/
def narrowFirst : FixtureFile :=
  { name := "a"
    expectations :=
      [(1, { details := [("A-1", [{ column := 10, message := "m" }, { column := 10 }]),
               ("B-1", [])],
             raised := [("A-1", false), ("B-1", false)] })] }

/-- A line that expects the message first is met by an exact report in any order. -/
theorem exact_report_passes_iff_narrow_first :
    (reconcile [("/a", narrowFirst)] [] []
        [issueIn 1 "A-1" 10 "", issueIn 1 "B-1" 3 "any", issueIn 1 "A-1" 10 "m"]).passed = true ∧
      ∀ entry ∈ (reconcile [("/a", narrowFirst)] [] []
          [issueIn 1 "A-1" 10 "", issueIn 1 "B-1" 3 "any", issueIn 1 "A-1" 10 "m"]).failures,
        entry.2.unexpected = [] ∧ entry.2.notRaised = [] :=
  (exact_report_passes_iff [("/a", narrowFirst)] _ (by decide)
    (by
      intro entry member
      rw [List.mem_singleton.1 member]
      exact ⟨"a.py", "x # [A-1]: 10 \"m\", 10; [B-1]", ["#"], by decide +kernel⟩)
    ⟨[issueIn 1 "A-1" 10 "m", issueIn 1 "A-1" 10 "", issueIn 1 "B-1" 3 "any"],
      .cons ⟨rfl, rfl, rfl, by rintro _ ⟨⟩; exact ⟨rfl, rfl⟩⟩
        (.cons ⟨rfl, rfl, rfl, by rintro _ ⟨⟩; exact ⟨rfl, rfl⟩⟩
          (.cons ⟨rfl, rfl, rfl, by rintro _ ⟨⟩⟩ .nil)),
      by decide⟩).2.1.2 (by decide +kernel)

/-- A line that expects the same detail twice. -/
def sameTwice : FixtureFile :=
  { name := "a"
    expectations :=
      [(1, { details := [("A-1", [{ column := 10 }, { column := 10 }])],
             raised := [("A-1", false)] })] }

/-- A line that expects the same detail twice is not met by two issues that have it. -/
theorem exact_report_fails :
    FixtureFile.ofSource "a.py" "x # [A-1]: 10, 10" ["#"] = .ok sameTwice ∧
      ReportsExactly [("/a", sameTwice)] [issueIn 1 "A-1" 10 "", issueIn 1 "A-1" 10 ""] ∧
      (reconcile [("/a", sameTwice)] [] []
        [issueIn 1 "A-1" 10 "", issueIn 1 "A-1" 10 ""]).passed = false := by
  refine ⟨by decide +kernel, ⟨_, ?_, List.Perm.refl _⟩, by decide +kernel⟩
  have gives : ∀ detail ∈ some ({ column := 10 } : Detail),
      (issueIn 1 "A-1" 10 "").position.start.column = detail.column ∧
        (issueIn 1 "A-1" 10 "").title = .ofString detail.message := by
    rintro _ ⟨⟩
    exact ⟨rfl, rfl⟩
  exact .cons ⟨rfl, rfl, rfl, gives⟩ (.cons ⟨rfl, rfl, rfl, gives⟩ .nil)

end LintBench
