import LintBench.Host.Tools
import LintBench.Proofs.Autofix.Restoring
import LintBench.Proofs.Files.Computing

/-!
# Autofix in place

Fixtures that take part in a run are as they were after Autofix in place, whatever
becomes of it, if the pattern does not go up and the run's own files go elsewhere.
-/

namespace LintBench

open Text (Bytes)

section Taken

variable {readRules : IgnoreReader} {world last : World} {base : Place} {store : Path}
  {included found : List String} {snapshot : Snapshot}
  (taken : Taken readRules world base store included found snapshot last)
include taken

/-- What a snapshot holds are files of the directory. -/
theorem Taken.fixtures : ∀ relative ∈ snapshot.copied,
    ∃ names content, IsFixture world.tree base relative names content := by
  intro relative member
  obtain ⟨names, content, fixture, -⟩ := taken.copied relative member
  exact ⟨names, content, fixture⟩

/-- Nothing is touched when a snapshot was made. -/
theorem Taken.untouched (plain : world.tree.Unlinked) :
    Untouched world.tree base store snapshot.copied last.tree where
  unlinked := taken.mirror.unlinked plain
  housed := taken.housed
  copies relative member names content fixture := by
    obtain ⟨_, _, other, stands⟩ := taken.copied relative member
    obtain ⟨rfl, rfl⟩ := fixture.unique other
    exact stands
  files _ _ _ _ fixture := taken.mirror.stands taken.apart fixture.stands

/-- Whatever becomes of the changes, the fixtures are put back, and nothing fails in that. -/
theorem Taken.exists_restore {interpret : Interpreter} (config : Config) (plain : world.tree.Plain)
    (scratch : Tree.Level world.scratch.names) (outside : ¬ base <+: world.scratch.names)
    (changes : interpret.ChangesBelow base snapshot.places) :
    ∃ final, (Run.andFinally (Run.tryChanges interpret config none snapshot)
        snapshot.restore).outcome last =
        (((Run.tryChanges interpret config none snapshot).outcome last).1, final) ∧
      Recoverable world.tree base store snapshot.copied
        ((Run.tryChanges interpret config none snapshot).outcome last).2.tree ∧
      PutBack world.tree base store snapshot.copied
        ((Run.tryChanges interpret config none snapshot).outcome last).2.tree final.tree := by
  have own (serial : Nat) :
      IsOwn base store (last.scratch / { names := ["script-" ++ toString serial] }) := by
    rw [taken.scratch]
    exact isOwn_script scratch outside taken.fresh serial
  have recoverable := recoverable_tryChanges config none taken.apart
    taken.codeDir taken.fixtures changes own (taken.untouched plain.toUnlinked)
  obtain ⟨final, ran, back⟩ := LintBench.exists_restore taken.apart taken.level plain.toUnlinked
    taken.codeDir taken.place taken.kept taken.fixtures recoverable
  refine ⟨final, ?_, recoverable, back⟩
  rw [Run.outcome_andFinally, ran]

end Taken

/-- Autofix in place leaves every fixture that takes part as it was: whatever becomes of the run,
and whatever the script writes and removes in the fixtures' directory. -/
theorem content_autofix {tools : Tools} {config : Config} {world : World} {base : Place}
    {found included : List String} (finds : Finds config world base found)
    (careful : tools.interpret.ChangesFilesOf base) {relative : String} (member : relative ∈ found)
    (covered : ∀ ignored,
      Snapshot.ignoredPaths tools.readRules world.tree (.ofNames base) = .ok ignored →
        Snapshot.TakesPart world.tree (.ofNames base) included ignored relative) :
    ∃ content, world.tree.content (.ofNames base / Path.ofString relative) = .ok content ∧
      ((Run.autofix tools config included none).outcome world).2.tree.content
        (.ofNames base / Path.ofString relative) = .ok content := by
  obtain ⟨names, content, fixture⟩ := finds.fixtures relative member
  refine ⟨content, fixture.content_of_restored finds.plain.toUnlinked ?_⟩
  rw [Run.autofix_eq, Run.outcome_bind]
  have unchanged : IsRestored world.tree base
      ((Snapshot.take tools.readRules config included none).outcome world).2.tree relative :=
    fun _ _ _ _ above => finds.unchanged_take member included above
  split
  case h_2 =>
    rename_i ran
    rw [ran] at unchanged
    exact unchanged
  case h_1 =>
    rename_i snapshot last ran
    obtain ⟨store, taken⟩ := finds.taken (fun _ _ fresh => finds.free_fresh fresh member) ran
    obtain ⟨ignored, ruled, complete⟩ := taken.complete
    have copied := complete relative member (covered ignored ruled)
    obtain ⟨final, after, -, back⟩ := taken.exists_restore config finds.plain
      finds.scratch finds.outside (careful.changesBelow snapshot.places)
    rw [after]
    exact back.restored relative copied

/-! ## A script that empties files -/

/-- A node that is emptied if it is a file of a directory. -/
def emptiedNode (base place : Place) : Node → Node
  | .file content => .file (if base.isPrefixOf place then [] else content)
  | node => node

/-- A tree with all files of a directory emptied. -/
def Tree.emptied (tree : Tree) (base : Place) : Tree :=
  { nodes := tree.nodes.map fun (place, node) => (place, emptiedNode base place node) }

/-- What stands at a place after the files below a directory were emptied. -/
theorem Tree.get?_emptied (tree : Tree) (base place : Place) :
    (tree.emptied base).get? place = (tree.get? place).map (emptiedNode base place) := by
  by_cases root : place = []
  · simp [root, emptiedNode]
  · rw [get?, get?, if_neg root, if_neg root, emptied]
    induction tree.nodes with
    | nil => rfl
    | cons head rest ih =>
      obtain ⟨first, node⟩ := head
      rw [List.map_cons, find?, find?]
      split
      · rename_i here
        rw [here, Option.map_some]
      · exact ih

/-- Emptying files makes no links. -/
theorem Tree.Unlinked.emptied {tree : Tree} (unlinked : tree.Unlinked) (base : Place) :
    (tree.emptied base).Unlinked := by
  intro place target found
  rw [get?_emptied] at found
  obtain ⟨node, before, same⟩ := Option.map_eq_some_iff.1 found
  cases node with
  | link other => exact unlinked place other before
  | file content => cases same
  | directory => cases same

/-- A script that empties all files of a directory. -/
def emptying (base : Place) : Interpreter := fun _ => do
  modify fun world => { world with tree := world.tree.emptied base }
  return { status := 0 }

/-- The script empties the files below a directory. -/
theorem leads_emptying (base : Place) (tree : Tree) (invocation : Invocation) :
    Run.Leads (emptying base invocation) (·.tree = tree) (·.tree = tree.emptied base) := by
  rintro world rfl
  rfl

/-- Emptying the files of a directory only changes files of that directory. -/
theorem changesFilesOf_emptying (base : Place) : (emptying base).ChangesFilesOf base := by
  intro invocation world _ place
  rw [leads_emptying base world.tree invocation world rfl, Tree.Writable, Tree.Writable,
    Tree.get?_emptied]
  rcases world.tree.get? place with _ | content | target | _
  · exact .inl rfl
  · by_cases under : base <+: place
    · exact .inr ⟨under, .inr ⟨content, rfl⟩, .inr ⟨_, rfl⟩⟩
    · simp [emptiedNode, under]
  · exact .inl rfl
  · exact .inl rfl

/-- A suite at the root that finds files in a directory. -/
def suiteOf (codePath files : String) : Config := { root := .ofNames [], codePath, files }

/-! ## Two fixtures, one of them ignored -/

namespace TwoFixtures

/-- A directory with two fixtures, the first of which is ignored. -/
def world : World :=
  { tree := { nodes := [(["t"], .directory), (["x"], .directory),
      (["x", ".gitignore"], .file (Text.encodeUtf8 "a.go")), (["x", "a.go"], .file [1]),
      (["x", "b.go"], .file [1])] }
    scratch := .ofNames ["t"] }

/-- The suite of the fixtures. -/
def config : Config := suiteOf "x" "*.go"

/-- The rule of the ignore file. -/
def rule : Host.IgnoreRule :=
  ⟨true, .startingWith [.directoriesBefore, .like (.char 'a'), .like (.char '.'), .like (.char 'g'),
    .like (.char 'o')] .orBelow⟩

/-- The tree has no links, and directories above all that stands in it. -/
theorem plain : world.tree.Plain := by decide

/-- The directory has the fixtures of the suite. -/
theorem houses : world.tree.Houses config ["x"] := by decide

/-- What the ignore file and the pattern say. -/
theorem readings :
    Host.IgnoreRule.readAll ((Text.linesWithEnds "a.go".toList).map fun line =>
        String.ofList (Text.withoutEnd line)) = .ok [rule] ∧
      SearchPattern.read "*.go" =
        .ok ⟨[.like [.anyText, .char '.', .char 'g', .char 'o']], false⟩ := by
  decide +kernel

/-- What the rule is about is ignored. -/
theorem ruled : Snapshot.ignoredPaths Host.readRules world.tree (.ofNames ["x"]) =
    .ok (Host.IgnoreRule.ignores? [rule]) := by
  have content : world.tree.content (.ofNames ["x"] / { names := [Snapshot.ignoreName] }) =
      .ok (Text.encodeUtf8 "a.go") :=
    (Tree.content_eq_ok_iff_stands houses.unlinked (by decide)).2 (by decide)
  have there : world.tree.isFile (.ofNames ["x"] / { names := [Snapshot.ignoreName] }) =
      .ok true :=
    Tree.isFile_eq_true_iff.2 ⟨_, content⟩
  have text : world.tree.textContent (.ofNames ["x"] / { names := [Snapshot.ignoreName] }) =
      .ok "a.go" := by
    rw [Tree.textContent, content, Except.map]
    decide +kernel
  rw [Snapshot.ignoredPaths, there, text]
  simp only [Except.mapError, bind, Except.bind, Host.readRules, readings.1]
  rfl

/-- Both fixtures are found. -/
theorem searched : world.tree.search (.ofNames ["x"]) config.files = .ok ["a.go", "b.go"] := by
  have rows : world.tree.findRows (.ofNames ["x"])
      ⟨[.like [.anyText, .char '.', .char 'g', .char 'o']], false⟩ = .ok [["a.go"], ["b.go"]] := by
    simp only [Tree.findRows, Tree.select_cons, Tree.nextRows, Tree.list, Tree.node,
      Tree.isDirectory, Tree.isFile, Tree.nodeIs, Tree.locate_eq_locateDown houses.unlinked]
    decide
  exact Tree.search_of_rows _ (by decide) readings.2 rows (by decide) (by decide) (by decide)

/-- What a run on the tree goes by. -/
theorem finds : Finds config world ["x"] ["a.go", "b.go"] where
  plain := plain
  coded := houses.codeDir_eq
  down := by
    rw [Tree.GoesDown]
    decide
  searched := searched
  scratch := by decide
  outside := by decide

end TwoFixtures

/-- The fixture that is not ignored is as it was after a script has emptied it. -/
theorem content_autofix_emptied :
    ((Run.autofix (Host.tools (emptying ["x"])) TwoFixtures.config ["/x/b.go"] none).outcome
      TwoFixtures.world).2.tree.content (.ofNames ["x"] / Path.ofString "b.go") = .ok [1] := by
  have stands : TwoFixtures.world.tree.Stands (.ofNames ["x", "b.go"]) (some (.file [1])) := by
    decide
  have shown : includedPath TwoFixtures.world.tree ["/x/b.go"]
      (.ofNames ["x"] / Path.ofString "b.go") = .ok (some "/x/b.go") :=
    includedPath_eq_some_iff.2 ⟨_, Tree.resolveStrict_of_stands TwoFixtures.houses.unlinked (by decide)
      stands, by decide, by decide⟩
  have read : TwoFixtures.world.tree.content (.ofNames ["x"] / Path.ofString "b.go") = .ok [1] :=
    (Tree.content_eq_ok_iff_stands TwoFixtures.houses.unlinked (by decide)).2 stands
  have covered (ignored : String → Bool)
      (ruled : Snapshot.ignoredPaths Host.readRules TwoFixtures.world.tree (.ofNames ["x"]) =
        .ok ignored) :
      Snapshot.TakesPart TwoFixtures.world.tree (.ofNames ["x"]) ["/x/b.go"] ignored "b.go" := by
    rw [TwoFixtures.ruled] at ruled
    cases ruled
    exact ⟨⟨_, shown⟩, by decide⟩
  have member : "b.go" ∈ ["a.go", "b.go"] := by decide
  have careful : (Host.tools (emptying ["x"])).interpret.ChangesFilesOf ["x"] :=
    changesFilesOf_emptying ["x"]
  obtain ⟨content, before, after⟩ :=
    content_autofix TwoFixtures.finds careful member covered
  rw [read] at before
  cases before
  exact after

end LintBench
