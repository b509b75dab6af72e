import LintBench.Proofs.Autofix.Copying
import LintBench.Proofs.Files.Computing
import LintBench.Proofs.Files.Finding
import LintBench.Proofs.Fixture.Placement
import LintBench.Proofs.Reconciliation.Reference
import LintBench.Proofs.Suite.Housing
import LintBench.Suite.Verdict

/-!
# Runs limited to some files

A run that is limited to files reads, copies and reports nothing else. The limit
is a list of resolved paths, and those named files that do not resolve are not in
it. An empty list limits nothing: if none of the named files resolves, the run is
one over all fixtures.
-/

namespace LintBench

/-- Whether a path is the resolved form of one of the files that are named below a directory. -/
def Tree.IsNamed (tree : Tree) (base : Path) (names : List String) (path : String) : Prop :=
  ∃ name ∈ names, ∃ resolved, tree.resolveStrict (base / Path.ofString name) = .ok resolved ∧
    resolved.toString = path

/-- What a run limited to some paths is to keep to: all that is read, copied and reported has an
allowed path, whatever the tree has become since the limit was set. -/
structure KeepsTo (config : Config) (included : List String) (Allowed : String → Prop) : Prop where
  /-- The fixtures that are read. -/
  read : ∀ tree files, readFixtures tree config included = .ok files →
    ∀ path ∈ Keyed.keys files, Allowed path
  /-- The fixtures that are copied before they are changed. -/
  copied : ∀ readRules given world snapshot last,
    (Snapshot.take readRules config included given).outcome world = (.ok snapshot, last) →
    ∀ relative ∈ snapshot.copied, ∃ resolved,
      last.tree.resolveStrict (snapshot.codeDir / Path.ofString relative) = .ok resolved ∧
        Allowed resolved.toString
  /-- The failures that are found. -/
  reported : ∀ tree files, readFixtures tree config included = .ok files →
    ∀ excluded issues path failures, ¬ Allowed path →
      Keyed.get? (reconcile files excluded included issues).failures path = some failures →
      failures.unexpected = [] ∧ failures.notRaised = []

/-! ## The limit -/

/-- The listed paths are those of the named files that resolve. -/
theorem Tree.mem_resolveListed {tree : Tree} {base : Path} {names included : List String}
    (listed : tree.resolveListed base names = .ok included) {path : String} :
    path ∈ included ↔ tree.IsNamed base names path := by
  obtain ⟨resolved, each, same⟩ := Runs.bind_eq_ok.1 listed
  cases same
  simp only [List.mem_eraseDups, List.mem_filterMap, Runs.mem_of_mapM each, IsNamed,
    Option.map_eq_some_iff]
  constructor
  · rintro ⟨_, ⟨name, member, ran⟩, found, rfl, shown⟩
    exact ⟨name, member, found, resolveIfThere_eq_some_iff.1 ran, shown⟩
  · rintro ⟨name, member, found, ran, shown⟩
    exact ⟨_, ⟨name, member, resolveIfThere_eq_some_iff.2 ran⟩, found, rfl, shown⟩

/-! ## Reading -/

/-- What is known of fixtures that were read: they have different paths, all of them included, and
each was read from some source. -/
structure ReadWithin (included : List String) (files : Keyed FixtureFile) : Prop where
  /-- No path has two files. -/
  distinct : (Keyed.keys files).Nodup
  /-- Every path is included. -/
  within : ∀ path ∈ Keyed.keys files, isIncluded included path = true
  /-- Every file is what a source says. -/
  read : ∀ entry ∈ files, ∃ name content markers,
    FixtureFile.ofSource name content markers = .ok entry.2

/-- Reading one more file that belongs to the named ones keeps to them. -/
theorem ReadWithin.set {included : List String} {files : Keyed FixtureFile}
    (sofar : ReadWithin included files) {path : String} (within : isIncluded included path = true)
    {name content : String} {markers : List String} {file : FixtureFile}
    (read : FixtureFile.ofSource name content markers = .ok file) :
    ReadWithin included (Keyed.set files path file) where
  distinct := Keyed.nodup_keys_update sofar.distinct path _
  within := by
    intro other member
    rw [Keyed.mem_keys_iff] at member
    obtain ⟨found, shown⟩ := member
    rw [Keyed.get?_set] at shown
    by_cases same : path = other
    · rwa [← same]
    · rw [if_neg same] at shown
      exact sofar.within other ((Keyed.mem_keys_iff files other).2 ⟨found, shown⟩)
  read := by
    intro (other, found) member
    have shown := (Keyed.get?_eq_some_iff
      (Keyed.nodup_keys_update sofar.distinct path _) other found).2 member
    rw [← Keyed.set, Keyed.get?_set] at shown
    by_cases same : path = other
    · rw [if_pos same] at shown
      cases shown
      exact ⟨name, content, markers, read⟩
    · rw [if_neg same] at shown
      exact sofar.read _ ((Keyed.get?_eq_some_iff sofar.distinct other found).1 shown)

/-- Read one found file if it takes part. -/
def readFound (tree : Tree) (config : Config) (included : List String) (codeDir : Path)
    (files : Keyed FixtureFile) (relative : String) : Except RunFault (Keyed FixtureFile) := do
  let path := codeDir / Path.ofString relative
  match ← (includedPath tree included path).mapError RunFault.file with
  | none => return files
  | some resolved =>
    return Keyed.set files resolved (← readFixture tree config.commentMarkers path)

/-- The fixtures of a suite are the found files, read one after another. -/
theorem readFixtures_eq_ok_iff {tree : Tree} {config : Config} {included : List String}
    {files : Keyed FixtureFile} :
    readFixtures tree config included = .ok files ↔
      ∃ codeDir found, config.codeDir tree = .ok codeDir ∧
        tree.search codeDir config.files = .ok found ∧
        found.foldlM (readFound tree config included codeDir) [] = .ok files := by
  unfold readFixtures
  simp only [Runs.bind_eq_ok, Runs.mapError_eq_ok]
  constructor
  · rintro ⟨codeDir, coded, found, searched, each⟩
    exact ⟨codeDir, found, coded, searched, each⟩
  · rintro ⟨codeDir, found, coded, searched, each⟩
    exact ⟨codeDir, coded, found, searched, each⟩

/-- A file that is included is set under its resolved path, and another one is passed by. -/
theorem readFound_eq_ok_iff {tree : Tree} {config : Config} {included : List String}
    {codeDir : Path} {files next : Keyed FixtureFile} {relative : String} :
    readFound tree config included codeDir files relative = .ok next ↔
      (includedPath tree included (codeDir / Path.ofString relative) = .ok none ∧ next = files) ∨
      ∃ shown file,
        includedPath tree included (codeDir / Path.ofString relative) = .ok (some shown) ∧
        readFixture tree config.commentMarkers (codeDir / Path.ofString relative) = .ok file ∧
        next = Keyed.set files shown file := by
  simp only [readFound, Runs.bind_eq_ok, Runs.mapError_eq_ok]
  constructor
  · rintro ⟨found, picked, later⟩
    cases found with
    | none =>
      cases later
      exact .inl ⟨picked, rfl⟩
    | some shown =>
      obtain ⟨file, read, same⟩ := Runs.bind_eq_ok.1 later
      cases same
      exact .inr ⟨shown, file, picked, read, rfl⟩
  · rintro (⟨picked, rfl⟩ | ⟨shown, file, picked, read, rfl⟩)
    · exact ⟨none, picked, rfl⟩
    · exact ⟨some shown, picked, Runs.bind_eq_ok.2 ⟨file, read, rfl⟩⟩

/-- The fixtures of a limited run are read within the limit. -/
theorem readWithin_of_readFixtures {tree : Tree} {config : Config} {included : List String}
    {files : Keyed FixtureFile} (ran : readFixtures tree config included = .ok files) :
    ReadWithin included files := by
  obtain ⟨codeDir, found, -, -, each⟩ := readFixtures_eq_ok_iff.1 ran
  refine Runs.keeps_of_foldlM (ReadWithin included) ?_ each
    ⟨List.nodup_nil, by simp [Keyed.keys], by simp⟩
  intro files relative next sofar stepped
  obtain ⟨-, rfl⟩ | ⟨shown, file, picked, read, rfl⟩ := readFound_eq_ok_iff.1 stepped
  · exact sofar
  · obtain ⟨-, -, -, within⟩ := includedPath_eq_some_iff.1 picked
    obtain ⟨source, -, taken⟩ := Runs.bind_eq_ok.1 read
    exact sofar.set within (Runs.mapError_eq_ok.1 taken)

/-- A found file that resolves to an included path is read. -/
theorem mem_keys_of_readFixtures {tree : Tree} {config : Config} {included : List String}
    {files : Keyed FixtureFile} (ran : readFixtures tree config included = .ok files)
    {codeDir resolved : Path} {found : List String} {relative : String}
    (coded : config.codeDir tree = .ok codeDir)
    (searched : tree.search codeDir config.files = .ok found) (member : relative ∈ found)
    (leads : tree.resolveStrict (codeDir / Path.ofString relative) = .ok resolved)
    (within : isIncluded included resolved.toString = true) :
    resolved.toString ∈ Keyed.keys files := by
  obtain ⟨_, _, codedSame, searchedSame, each⟩ := readFixtures_eq_ok_iff.1 ran
  rw [coded] at codedSame
  cases codedSame
  rw [searched] at searchedSame
  cases searchedSame
  have picked := includedPath_eq_some_iff.2 ⟨resolved, leads, rfl, within⟩
  refine Runs.holds_of_foldlM (fun files => resolved.toString ∈ Keyed.keys files) ?_ ?_ each member
  · intro files next stepped
    rcases readFound_eq_ok_iff.1 stepped with ⟨passed, -⟩ | ⟨shown, file, same, -, rfl⟩
    · rw [picked] at passed
      cases passed
    · rw [picked] at same
      cases same
      exact (Keyed.mem_keys_iff _ _).2 ⟨file, by rw [Keyed.get?_set, if_pos rfl]⟩
  · intro files other next sofar stepped
    rcases readFound_eq_ok_iff.1 stepped with ⟨-, rfl⟩ | ⟨shown, file, -, -, rfl⟩
    · exact sofar
    · rw [Keyed.set, Keyed.keys_update]
      split
      · exact sofar
      · exact List.mem_append_left _ sofar

/-! ## Reporting -/

/-- Nothing is found wrong at a path that has no fixture and is not included. -/
theorem referenceAt_of_outside {files : Keyed FixtureFile} {included : List String}
    {issues : List Issue} {path : String} (absent : Keyed.get? files path = none)
    (outside : isIncluded included path = false) :
    referenceAt files included issues path = {} := by
  have none_counts : (issuesAt path issues).filter (isUnexpected files included) = [] := by
    refine List.filter_eq_nil_iff.2 fun issue member => ?_
    have here : issue.position.resolved = path := by simpa [issuesAt] using (List.mem_filter.1 member).2
    rw [isUnexpected, here, absent, ← isIncluded, outside]
    simp
  rw [referenceAt, none_counts, absent]

/-- A limited run finds nothing wrong outside its limit. -/
theorem failures_of_outside {files : Keyed FixtureFile} {excluded included : List String}
    {issues : List Issue} {path : String} {failures : Failures} (read : ReadWithin included files)
    (outside : isIncluded included path = false)
    (listed : Keyed.get? (reconcile files excluded included issues).failures path = some failures) :
    failures.unexpected = [] ∧ failures.notRaised = [] := by
  have absent : Keyed.get? (promoteFiles files (issueCodes issues)) path = none := by
    rw [Keyed.get?_eq_none_iff, keys_promoteFiles]
    intro member
    rw [read.within path member] at outside
    cases outside
  rw [failures_reconcile_of_fresh excluded included issues read.distinct (fresh_of_read read.read),
    Keyed.get?_map_keys] at listed
  split at listed
  · cases listed
    rw [referenceAt_of_outside absent outside]
    exact ⟨rfl, rfl⟩
  · cases listed

/-! ## The run -/

/-- A run that is limited to some paths keeps to them. -/
theorem keepsTo_of_ne_nil {config : Config} {included : List String} (limited : included ≠ []) :
    KeepsTo config included (· ∈ included) := by
  have within (path : String) : isIncluded included path = true ↔ path ∈ included := by
    simp [isIncluded, limited]
  constructor
  case read =>
    intro tree files ran path member
    exact (within path).1 ((readWithin_of_readFixtures ran).within path member)
  case copied =>
    intro readRules given world snapshot last ran relative member
    obtain ⟨resolved, leads, passes⟩ := (Snapshot.extends_take ran).2 relative member
    exact ⟨resolved, leads, (within _).1 passes⟩
  case reported =>
    intro tree files ran excluded issues path failures outside listed
    refine failures_of_outside (readWithin_of_readFixtures ran) ?_ listed
    rwa [← Bool.not_eq_true, within]

/-- A run keeps to the named files if one of them resolves. If none does, its limit is empty, and
every found fixture that resolves is read. -/
theorem limited_run (tree : Tree) (config : Config) (base : Path) (names included : List String)
    (listed : tree.resolveListed base names = .ok included) :
    ((∃ path, tree.IsNamed base names path) →
      KeepsTo config included (tree.IsNamed base names)) ∧
    ((∀ path, ¬ tree.IsNamed base names path) →
      included = [] ∧
        ∀ later files codeDir found, readFixtures later config included = .ok files →
          config.codeDir later = .ok codeDir → later.search codeDir config.files = .ok found →
          ∀ relative ∈ found, ∀ resolved,
            later.resolveStrict (codeDir / Path.ofString relative) = .ok resolved →
            resolved.toString ∈ Keyed.keys files) := by
  have same : (· ∈ included) = tree.IsNamed base names :=
    funext fun path => propext (Tree.mem_resolveListed listed)
  rw [← same]
  constructor
  · rintro ⟨path, member⟩
    exact keepsTo_of_ne_nil (List.ne_nil_of_mem member)
  · intro unresolved
    have empty : included = [] := List.eq_nil_iff_forall_not_mem.2 unresolved
    refine ⟨empty, fun later files codeDir found ran coded searched relative member resolved leads =>
      mem_keys_of_readFixtures ran coded searched member leads ?_⟩
    rw [empty]
    rfl

/-! ## A suite of two fixtures -/

namespace NamedFixtures

/-- A directory with two fixtures. -/
def tree : Tree :=
  { nodes := [(["a.go"], .file (Text.encodeUtf8 "x // [A-1]")),
      (["b.go"], .file (Text.encodeUtf8 "y // [B-1]"))] }

/-- The suite of both. -/
def suite : Config := { root := .ofNames [], files := "*.go", commentMarkers := ["//"] }

/-- The root has the fixtures of the suite. -/
theorem houses : tree.Houses suite [] := by decide

/-- The first fixture is where its path leads. -/
theorem leads_a :
    tree.resolveStrict (.ofNames [] / Path.ofString "a.go") = .ok (.ofNames ["a.go"]) := by
  have stands : tree.Stands (.ofNames ["a.go"]) (some (.file (Text.encodeUtf8 "x // [A-1]"))) := by
    decide
  exact Tree.resolveStrict_of_stands houses.unlinked (by decide) stands

/-- The second fixture is where its path leads. -/
theorem leads_b :
    tree.resolveStrict (.ofNames [] / Path.ofString "b.go") = .ok (.ofNames ["b.go"]) := by
  have stands : tree.Stands (.ofNames ["b.go"]) (some (.file (Text.encodeUtf8 "y // [B-1]"))) := by
    decide
  exact Tree.resolveStrict_of_stands houses.unlinked (by decide) stands

/-- A third path leads nowhere. -/
theorem resolveIfThere_nope :
    tree.resolveIfThere (.ofNames [] / Path.ofString "nope.go") = .ok none := by
  have path : Path.ofNames [] / Path.ofString "nope.go" = .ofNames ([] ++ ["nope.go"]) := by decide
  rw [path]
  exact Tree.resolveIfThere_of_absent houses.unlinked (by decide) (by decide)

/-- Both fixtures are found. -/
theorem searched : tree.search (.ofNames []) suite.files = .ok ["a.go", "b.go"] := by
  have read : SearchPattern.read "*.go" =
      .ok ⟨[.like [.anyText, .char '.', .char 'g', .char 'o']], false⟩ := by decide +kernel
  have rows : tree.findRows (.ofNames [])
      ⟨[.like [.anyText, .char '.', .char 'g', .char 'o']], false⟩ = .ok [["a.go"], ["b.go"]] := by
    simp only [Tree.findRows, Tree.select_cons, Tree.nextRows, Tree.list, Tree.node,
      Tree.isDirectory, Tree.isFile, Tree.nodeIs, Tree.locate_eq_locateDown houses.unlinked]
    decide
  exact Tree.search_of_rows _ (by decide) read rows (by decide) (by decide) (by decide)

/-- A fixture is read whose text is known and has comments that can be read. -/
theorem exists_readFixture {path : Path} (content text : String)
    (level : Tree.Level path.names)
    (stands : tree.Stands path (some (.file (Text.encodeUtf8 content))))
    (decoded : String.ofList (Text.normalizeLineEnds
      (Text.decodeUtf8Lossy (Text.encodeUtf8 content)).toList) = text)
    (readable : Readable (["//"].map String.toList) (linesOf text)) :
    ∃ file, readFixture tree ["//"] path = .ok file := by
  have held := (Tree.content_eq_ok_iff_stands houses.unlinked level).2 stands
  have read : tree.textContent path = .ok text := by
    rw [Tree.textContent, held, Except.map, decoded]
  obtain ⟨file, taken⟩ := exists_ofSource path.name text ["//"] readable
  exact ⟨file, Runs.bind_eq_ok.2 ⟨_, Runs.mapError_eq_ok.2 read, Runs.mapError_eq_ok.2 taken⟩⟩

/-- The first fixture can be read. -/
theorem exists_readFixture_a :
    ∃ file, readFixture tree ["//"] (.ofNames [] / Path.ofString "a.go") = .ok file :=
  exists_readFixture "x // [A-1]" "x // [A-1]" (by decide) (by decide) (by decide +kernel)
    (by decide +kernel)

/-- The second fixture can be read. -/
theorem exists_readFixture_b :
    ∃ file, readFixture tree ["//"] (.ofNames [] / Path.ofString "b.go") = .ok file :=
  exists_readFixture "y // [B-1]" "y // [B-1]" (by decide) (by decide) (by decide +kernel)
    (by decide +kernel)

end NamedFixtures

open NamedFixtures in
/-- One of two named files is there, and of the two fixtures that are found the run keeps to it. -/
theorem limited_run_one_missing :
    tree.resolveListed (.ofNames []) ["b.go", "nope.go"] = .ok ["/b.go"] ∧
      KeepsTo suite ["/b.go"] (tree.IsNamed (.ofNames []) ["b.go", "nope.go"]) ∧
      ∃ file, readFixtures tree suite ["/b.go"] = .ok [("/b.go", file)] := by
  have listed : tree.resolveListed (.ofNames []) ["b.go", "nope.go"] = .ok ["/b.go"] := by
    simp only [Tree.resolveListed, List.mapM_cons, List.mapM_nil,
      Tree.resolveIfThere_eq_some_iff.2 leads_b, resolveIfThere_nope]
    rfl
  have named : tree.IsNamed (.ofNames []) ["b.go", "nope.go"] "/b.go" :=
    ⟨"b.go", by simp, .ofNames ["b.go"], leads_b, by decide⟩
  obtain ⟨file, read⟩ := exists_readFixture_b
  have ran : readFixtures tree suite ["/b.go"] = .ok [("/b.go", file)] := by
    refine readFixtures_eq_ok_iff.2 ⟨_, _, houses.codeDir_eq, searched, ?_⟩
    have passed : readFound tree suite ["/b.go"] (.ofNames []) [] "a.go" = .ok [] :=
      readFound_eq_ok_iff.2 (.inl ⟨includedPath_of_leads _ leads_a, rfl⟩)
    have taken : readFound tree suite ["/b.go"] (.ofNames []) [] "b.go" = .ok [("/b.go", file)] :=
      readFound_eq_ok_iff.2 (.inr ⟨"/b.go", file, includedPath_of_leads _ leads_b, read, rfl⟩)
    exact Runs.bind_eq_ok.2 ⟨_, passed, Runs.bind_eq_ok.2 ⟨_, taken, rfl⟩⟩
  exact ⟨listed, (limited_run tree suite _ _ _ listed).1 ⟨"/b.go", named⟩, file, ran⟩

open NamedFixtures in
/-- The one named file is not there, and a fixture is read that is not named. -/
theorem limit_lost :
    ∃ included files, tree.resolveListed (.ofNames []) ["nope.go"] = .ok included ∧
      readFixtures tree suite included = .ok files ∧
      "/a.go" ∈ Keyed.keys files ∧ ¬ tree.IsNamed (.ofNames []) ["nope.go"] "/a.go" := by
  have listed : tree.resolveListed (.ofNames []) ["nope.go"] = .ok [] := by
    simp only [Tree.resolveListed, List.mapM_cons, List.mapM_nil, resolveIfThere_nope]
    rfl
  obtain ⟨first, readFirst⟩ := exists_readFixture_a
  obtain ⟨second, readSecond⟩ := exists_readFixture_b
  have ran : readFixtures tree suite [] = .ok [("/a.go", first), ("/b.go", second)] := by
    refine readFixtures_eq_ok_iff.2 ⟨_, _, houses.codeDir_eq, searched, ?_⟩
    have one : readFound tree suite [] (.ofNames []) [] "a.go" = .ok [("/a.go", first)] :=
      readFound_eq_ok_iff.2 (.inr ⟨"/a.go", first, includedPath_of_leads _ leads_a, readFirst, rfl⟩)
    have other : readFound tree suite [] (.ofNames []) [("/a.go", first)] "b.go" =
        .ok [("/a.go", first), ("/b.go", second)] :=
      readFound_eq_ok_iff.2 (.inr ⟨"/b.go", second, includedPath_of_leads _ leads_b, readSecond, rfl⟩)
    exact Runs.bind_eq_ok.2 ⟨_, one, Runs.bind_eq_ok.2 ⟨_, other, rfl⟩⟩
  refine ⟨[], _, listed, ran, List.mem_cons_self, ?_⟩
  rw [← Tree.mem_resolveListed listed]
  exact List.not_mem_nil

end LintBench
