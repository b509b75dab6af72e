import LintBench.Proofs.Autofix.Exits
import LintBench.Proofs.LineDiff.Unified

/-!
# The verdict on changed fixtures

A run passes if the bytes of each fixture differ from those of its golden file before
the changes, and the texts are the same afterwards. A text is what the bytes are read
as: it does not tell how its lines end, nor which bytes are none of a text. So a run
that changes nothing passes if the fixtures differ from their golden files by nothing
else.
-/

namespace LintBench

/-- The lines of a text with their ends tell the text. -/
theorem linesWithEnds_inj {one other : List Char} :
    (Text.linesWithEnds one).map String.ofList = (Text.linesWithEnds other).map String.ofList ↔
      one = other := by
  constructor
  · intro same
    have lines : Text.linesWithEnds one = Text.linesWithEnds other :=
      List.map_injective_iff.2 (fun _ _ => String.ofList_injective) same
    rw [← Text.flatten_linesWithEnds one, lines, Text.flatten_linesWithEnds]
  · rintro rfl
    rfl

namespace Snapshot

variable {tree : Tree} {codeDir : Path} {excluded : List String} {snapshot : Snapshot}
  {pairs : List GoldenPair}

/-- Two files have the same lines exactly if they have the same text. -/
theorem linesOfFile_eq_iff {one other : Path} {first second : List String}
    (read : linesOfFile tree one = .ok first) (against : linesOfFile tree other = .ok second) :
    first = second ↔ ∃ text, tree.textContent one = .ok text ∧ tree.textContent other = .ok text := by
  obtain ⟨text, here, rfl⟩ := Runs.map_eq_ok.1 read
  obtain ⟨wanted, there, rfl⟩ := Runs.map_eq_ok.1 against
  rw [here, there, linesWithEnds_inj]
  constructor
  · intro same
    exact ⟨text, rfl, by rw [String.ext_iff.2 same.symm]⟩
  · rintro ⟨_, ⟨⟩, ⟨⟩⟩
    rfl

/-- What a fixture is compared with its golden file by before it is changed. -/
theorem compared_eq_ok {pair : GoldenPair} {same : Bool} :
    (do return (← tree.content pair.fixture) == (← tree.content pair.golden)) =
        (Except.ok same : Except FileFault Bool) ↔
      ∃ fixture golden, tree.content pair.fixture = .ok fixture ∧
        tree.content pair.golden = .ok golden ∧ (fixture == golden) = same := by
  simp [Runs.bind_eq_ok, pure, Except.pure]

/-- No fixture is the same as its golden file exactly if the bytes of each pair differ. -/
theorem identicalFixtures_eq_nil_iff {same : List String}
    (paired : snapshot.goldenPairs tree codeDir excluded = .ok pairs)
    (compared : snapshot.identicalFixtures tree codeDir excluded = .ok same) :
    same = [] ↔ ∀ pair ∈ pairs, tree.content pair.fixture ≠ tree.content pair.golden := by
  obtain ⟨_, first, compared⟩ := Runs.bind_eq_ok.1 compared
  rw [paired] at first
  cases first
  obtain ⟨kept, filtered, told⟩ := Runs.bind_eq_ok.1 compared
  cases told
  rw [List.map_eq_nil_iff, List.eq_nil_iff_forall_not_mem]
  constructor
  · intro none pair member equal
    obtain ⟨passes, tested⟩ := Runs.exists_of_filterM filtered pair member
    obtain ⟨fixture, golden, here, there, rfl⟩ := compared_eq_ok.1 tested
    have bytes : fixture = golden := by
      rw [here, there] at equal
      exact Except.ok.inj equal
    refine none pair ((Runs.mem_of_filterM filtered).2 ⟨member, ?_⟩)
    exact compared_eq_ok.2 ⟨fixture, golden, here, there, beq_iff_eq.2 bytes⟩
  · intro differ pair member
    obtain ⟨inside, tested⟩ := (Runs.mem_of_filterM filtered).1 member
    obtain ⟨fixture, golden, here, there, equal⟩ := compared_eq_ok.1 tested
    refine differ pair inside ?_
    rw [here, there, beq_iff_eq.1 equal]

/-- There are no differences exactly if the changed file of each pair has the text of the golden
file. -/
theorem goldenDiffs_eq_nil_iff {diffs : Keyed (List String)}
    (paired : snapshot.goldenPairs tree codeDir excluded = .ok pairs)
    (compared : snapshot.goldenDiffs tree codeDir excluded = .ok diffs) :
    diffs = [] ↔ ∀ pair ∈ pairs, ∃ text,
      tree.textContent (snapshot.changedFile pair) = .ok text ∧
        tree.textContent pair.golden = .ok text := by
  obtain ⟨_, first, compared⟩ := Runs.bind_eq_ok.1 compared
  rw [paired] at first
  cases first
  obtain ⟨entries, ran, told⟩ := Runs.bind_eq_ok.1 compared
  cases told
  have entry_iff {pair : GoldenPair} {entry : String × List String} (ran : (do
      let changed ← linesOfFile tree (snapshot.changedFile pair)
      let golden ← linesOfFile tree pair.golden
      return (pair.fixture.toString, LineDiff.unified pair.relative
        (pair.relative ++ goldenEnding) changed golden)) = (Except.ok entry : Except FileFault _)) :
      entry.2 = [] ↔ ∃ text, tree.textContent (snapshot.changedFile pair) = .ok text ∧
        tree.textContent pair.golden = .ok text := by
    obtain ⟨changed, read, later⟩ := Runs.bind_eq_ok.1 ran
    obtain ⟨golden, against, same⟩ := Runs.bind_eq_ok.1 later
    cases same
    rw [LineDiff.unified_eq_nil_iff, linesOfFile_eq_iff read against]
  rw [List.filter_eq_nil_iff]
  constructor
  · intro none pair member
    obtain ⟨entry, here⟩ := Runs.exists_of_mapM ran pair member
    have empty := none entry ((Runs.mem_of_mapM ran).2 ⟨pair, member, here⟩)
    exact (entry_iff here).1 (by simpa using empty)
  · intro equal entry member
    obtain ⟨pair, inside, here⟩ := (Runs.mem_of_mapM ran).1 member
    simpa using (entry_iff here).2 (equal pair inside)

end Snapshot

/-! ## What a run passes by -/

/-- Whether these are the fixtures that a snapshot holds and the golden files that a tree has for
them, without those that are left out. -/
def Snapshot.PairsUp (snapshot : Snapshot) (config : Config) (tree : Tree)
    (pairs : List GoldenPair) : Prop :=
  ∃ codeDir excluded, config.codeDir tree = .ok codeDir ∧
    config.excludedPaths tree = .ok excluded ∧
    snapshot.goldenPairs tree codeDir excluded = .ok pairs

/-- Whether it goes unnoticed that a fixture was not changed: its bytes are not those of its golden
file, but they are read as the same text. -/
def Snapshot.Unnoticed (snapshot : Snapshot) (tree : Tree) (pair : GoldenPair) : Prop :=
  tree.content pair.fixture ≠ tree.content pair.golden ∧
    ∃ text, tree.textContent (snapshot.changedFile pair) = .ok text ∧
      tree.textContent pair.golden = .ok text

section Verdict

variable {tools : Tools} {config : Config} {included : List String} {given : Option Path}
  {world held : World} {snapshot : Snapshot} {result : Run.AutofixResult}
  (taken : (Snapshot.take tools.readRules config included given).outcome world =
    (.ok snapshot, held))
  (ended : ((Run.autofix tools config included given).outcome world).1 = .ok result)
include taken ended

/-- A run passes exactly if the bytes of each fixture differed from those of its golden file when
the snapshot was made, and the changed files have the texts of the golden files after the script. -/
theorem passed_iff : ∃ before after,
    snapshot.PairsUp config held.tree before ∧
      snapshot.PairsUp config
        ((Run.tryChanges tools.interpret config given snapshot).outcome held).2.tree after ∧
      (result.passed = true ↔
        (∀ pair ∈ before, held.tree.content pair.fixture ≠ held.tree.content pair.golden) ∧
          ∀ pair ∈ after, ∃ text,
            ((Run.tryChanges tools.interpret config given snapshot).outcome held).2.tree.textContent
                (snapshot.changedFile pair) = .ok text ∧
              ((Run.tryChanges tools.interpret config given snapshot).outcome held).2.tree.textContent
                pair.golden = .ok text) := by
  have tried := Run.outcome_autofix_fst taken ended
  rcases ran : (Run.tryChanges tools.interpret config given snapshot).outcome held with ⟨_, last⟩
  rw [ran] at tried
  obtain rfl := tried
  obtain ⟨⟨codeDir, excluded, coded, excludes, identical⟩, codeDirLater, later, codedLater,
    excludesLater, differ⟩ := Run.outcome_tryChanges_eq_ok ran
  obtain ⟨before, paired, -⟩ := Runs.bind_eq_ok.1 identical
  obtain ⟨after, pairedLater, -⟩ := Runs.bind_eq_ok.1 differ
  refine ⟨before, after, ⟨codeDir, excluded, coded, excludes, paired⟩,
    ⟨codeDirLater, later, codedLater, excludesLater, pairedLater⟩, ?_⟩
  rw [← Snapshot.identicalFixtures_eq_nil_iff paired identical,
    ← Snapshot.goldenDiffs_eq_nil_iff pairedLater differ, Run.AutofixResult.passed, Bool.and_eq_true,
    List.isEmpty_iff, List.isEmpty_iff, and_comm]

/-- A run in which nothing was changed between the snapshot and the verdict passes exactly if that
goes unnoticed for every fixture with a golden file. -/
theorem passed_unchanged_iff
    (unchanged :
      ((Run.tryChanges tools.interpret config given snapshot).outcome held).2.tree = held.tree) :
    ∃ pairs, snapshot.PairsUp config held.tree pairs ∧
      (result.passed = true ↔ ∀ pair ∈ pairs, snapshot.Unnoticed held.tree pair) := by
  obtain ⟨before, after, ⟨codeDir, excluded, coded, excludes, paired⟩, later, passes⟩ :=
    passed_iff taken ended
  rw [unchanged] at later passes
  obtain ⟨_, _, codedLater, excludesLater, pairedLater⟩ := later
  cases coded.symm.trans codedLater
  cases excludes.symm.trans excludesLater
  cases paired.symm.trans pairedLater
  refine ⟨before, ⟨codeDir, excluded, coded, excludes, paired⟩, ?_⟩
  rw [passes, ← forall₂_and]
  exact Iff.rfl

end Verdict

/-! ### Two ways to end a line -/

/-- A script that does nothing. -/
def idle : Interpreter := fun _ => return { status := 0 }

namespace LineEnds

/-- The fixture and its golden file. -/
def pair : GoldenPair :=
  { relative := "a.go", fixture := .ofNames ["x", "a.go"], golden := .ofNames ["x", "a.go.golden"] }

/-- The directory still holds the fixtures when they have been copied. -/
theorem houses_held : Snapshot.Houses held config ["x"] := by decide

/-- The fixture's line ends with two characters. -/
theorem content_fixture : held.content pair.fixture = .ok [120, 13, 10] :=
  (Tree.content_eq_ok_iff_stands houses_held.unlinked (by decide)).2 (by decide)

/-- The golden file's line ends with one. -/
theorem content_golden : held.content pair.golden = .ok [120, 10] :=
  (Tree.content_eq_ok_iff_stands houses_held.unlinked (by decide)).2 (by decide)

/-- Both files are read as the same line. -/
theorem linesOfFile_pair : Snapshot.linesOfFile held pair.fixture = .ok ["x\n"] ∧
    Snapshot.linesOfFile held pair.golden = .ok ["x\n"] := by
  rw [Snapshot.linesOfFile, Snapshot.linesOfFile, Tree.textContent, Tree.textContent, content_fixture,
    content_golden]
  decide +kernel

/-- The suite excludes nothing. -/
theorem excludedPaths_eq (tree : Tree) : config.excludedPaths tree = .ok [] := rfl

/-- The fixture has its golden file. -/
theorem goldenPairs_held : snapshot.goldenPairs held (.ofNames ["x"]) [] = .ok [pair] := by
  have one : Snapshot.pair? held (.ofNames ["x"]) [] "a.go" = .ok (some pair) := by
    simp only [Snapshot.pair?, Tree.resolveStrict, Tree.resolve_eq_settleDown houses_held.unlinked,
      Tree.isFile, Tree.nodeIs, Tree.node, Tree.locate_eq_locateDown houses_held.unlinked]
    decide
  rw [Snapshot.goldenPairs, show snapshot.copied = ["a.go"] from rfl, List.mapM_cons, one]
  rfl

/-- The fixture is not the same as its golden file. -/
theorem identicalFixtures_held : snapshot.identicalFixtures held (.ofNames ["x"]) [] = .ok [] := by
  rw [Snapshot.identicalFixtures, goldenPairs_held]
  simp only [bind, Except.bind, List.filterM, List.filterAuxM, content_fixture, content_golden]
  rfl

/-- There is no difference between the fixture and its golden file. -/
theorem goldenDiffs_held : snapshot.goldenDiffs held (.ofNames ["x"]) [] = .ok [] := by
  have none : LineDiff.unified pair.relative (pair.relative ++ goldenEnding) ["x\n"] ["x\n"] = [] :=
    LineDiff.unified_eq_nil_iff.2 rfl
  rw [Snapshot.goldenDiffs, goldenPairs_held]
  simp only [bind, Except.bind, List.mapM_cons, List.mapM_nil,
    show snapshot.changedFile pair = pair.fixture from rfl, linesOfFile_pair.1, linesOfFile_pair.2,
    none]
  rfl

/-- Nothing stands where the text of the script goes. -/
theorem located : held.locate false (.ofNames ["t", "script-1"]) =
    .ok ⟨["t", "script-1"], none⟩ :=
  (Tree.locate_eq_ok_iff_stands houses_held.unlinked (by decide)).2 ⟨rfl, by decide⟩

/-- Nothing stands where the script is written. -/
theorem free : ∀ entry ∈ held.nodes, ¬ ["t", "script-1"] <+: entry.1 := by decide

/-- A run with a script that does nothing finds nothing amiss. -/
theorem ended : ((Run.autofix (Host.tools idle) config [] none).outcome world).1 = .ok {} := by
  have changes : (Host.tools idle).interpret.ChangesBelow ["x"] snapshot.places :=
    Interpreter.ChangesFilesOf.changesBelow (fun _ _ _ _ => .inl rfl) _
  obtain ⟨found, store, kept⟩ := within.exists_taken hasFreshNames (taken Host.readRules)
  obtain ⟨final, ran, -⟩ := kept.exists_restore config within.plain within.scratch
    within.outside changes
  rw [Run.autofix_eq, Run.outcome_bind_of_ok (taken _), ran]
  have store : held.store (.ofNames ["t", "script-1"]) [] =
      .ok (held.set ["t", "script-1"] (.file [])) :=
    (Tree.store_eq_ok_iff_stands houses_held.unlinked (by decide)).2 ⟨none, by decide, by decide, rfl⟩
  obtain ⟨invocation, begun, here, ready⟩ := Run.outcome_prepared_of_ok none
    { world with tree := held, serial := 1 } houses_held.codeDir_eq (excludedPaths_eq held)
    identicalFixtures_held held.makeDirectories_root held.resolveStrict_root houses_held.codeDir_eq
    houses_held.resolveStrict_eq store
  exact Run.outcome_tryChanges_of_ok ready rfl
    (here ▸ Tree.discard_store located free store) houses_held.codeDir_eq (excludedPaths_eq held)
    goldenDiffs_held

end LineEnds

/-- A run passes whose script does nothing, although a fixture of it has a golden file: the two only
end their line in another way. -/
theorem idle_autofix_passes :
    (∀ invocation world, (idle invocation).outcome world = (.ok { status := 0 }, world)) ∧
      (Snapshot.take (Host.tools idle).readRules LineEnds.config [] none).outcome LineEnds.world =
        (.ok LineEnds.snapshot, { LineEnds.world with tree := LineEnds.held, serial := 1 }) ∧
      LineEnds.snapshot.PairsUp LineEnds.config LineEnds.held [LineEnds.pair] ∧
      ∃ result, ((Run.autofix (Host.tools idle) LineEnds.config [] none).outcome LineEnds.world).1 =
        .ok result ∧ result.passed = true :=
  ⟨fun _ _ => rfl, LineEnds.taken _,
    ⟨_, [], LineEnds.houses_held.codeDir_eq, LineEnds.excludedPaths_eq _,
      LineEnds.goldenPairs_held⟩, _, LineEnds.ended, rfl⟩

/-- That the fixture was not changed goes unnoticed. -/
theorem passed_unchanged_iff_line_ends :
    LineEnds.snapshot.Unnoticed LineEnds.held LineEnds.pair := by
  have unchanged : ((Run.tryChanges (Host.tools idle).interpret LineEnds.config none
      LineEnds.snapshot).outcome
        { LineEnds.world with tree := LineEnds.held, serial := 1 }).2.tree = LineEnds.held :=
    Run.tree_tryChanges_of_idle _ _ _ _ (fun _ _ => rfl)
      LineEnds.held.makeDirectories_root LineEnds.located LineEnds.free
  obtain ⟨pairs, ⟨_, _, coded, excludes, paired⟩, passes⟩ :=
    passed_unchanged_iff (LineEnds.taken _) LineEnds.ended unchanged
  cases LineEnds.houses_held.codeDir_eq.symm.trans coded
  rw [LineEnds.excludedPaths_eq] at excludes
  cases excludes
  rw [LineEnds.goldenPairs_held] at paired
  cases paired
  exact passes.1 rfl _ (List.mem_singleton_self _)

end LintBench
