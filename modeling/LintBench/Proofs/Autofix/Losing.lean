import LintBench.Proofs.Autofix.InPlace

/-!
# What Autofix in place loses

A fixture stays as the script leaves it if the run is not limited to it, or if the
ignore file names it. Where the pattern goes up, or where the run's own files go
among the fixtures, the script can change the copies too, and a fixture that was
copied is lost with its copy.
-/

namespace LintBench

open Text (Bytes)

/-- Whether Autofix in place gives a found file another content, by a script that only changes files
of the fixtures' directory. -/
def Loses (config : Config) (included : List String) (world : World) (base : Place)
    (relative : String) : Prop :=
  world.tree.Plain ∧ config.codeDir world.tree = .ok (.ofNames base) ∧
    (∃ found, world.tree.search (.ofNames base) config.files = .ok found ∧ relative ∈ found) ∧
    ∃ interpret : Interpreter, interpret.ChangesFilesOf base ∧
      ((Run.autofix (Host.tools interpret) config included none).outcome world).2.tree.content
          (.ofNames base / Path.ofString relative) ≠
        world.tree.content (.ofNames base / Path.ofString relative)

/-! ## Runs in which nothing fails -/

/-- What is left in the tree of a suite at the root when the fixtures are put back. -/
theorem tree_autofix (tools : Tools) {config : Config} {included : List String}
    {world held : World} {snapshot : Snapshot} {base : Place} {same : List String}
    {stored ended left : Tree} (root : config.root = .ofNames []) (all : config.excluded = [])
    (taken : (Snapshot.take tools.readRules config included none).outcome world =
      (.ok snapshot, held))
    (identical : snapshot.identicalFixtures held.tree (.ofNames base) [] = .ok same)
    (coded : config.codeDir held.tree = .ok (.ofNames base))
    (resolved : held.tree.resolveStrict (.ofNames base) = .ok (.ofNames base))
    (store : held.tree.store (held.scratch / { names := ["script-" ++ toString held.serial] })
      (Text.encodeUtf8 config.autofix.body) = .ok stored)
    (ran : ∀ invocation, Run.Leads (tools.interpret invocation) (·.tree = stored) (·.tree = ended))
    (removed : ended.discard (held.scratch / { names := ["script-" ++ toString held.serial] }) =
      .ok left) :
    ∃ last : World, last.tree = left ∧
      ((Run.autofix tools config included none).outcome world).2.tree =
        (snapshot.restore.outcome last).2.tree := by
  have excludes : config.excludedPaths held.tree = .ok [] := by
    rw [Config.excludedPaths, all]
    rfl
  have made : held.tree.makeDirectories config.root = .ok held.tree := by
    rw [root, Tree.makeDirectories_root]
  have reached : held.tree.resolveStrict config.root = .ok (.ofNames []) := by
    rw [root, Tree.resolveStrict_root]
  obtain ⟨invocation, begun, here, prepared⟩ :=
    Run.outcome_prepared_of_ok none held coded excludes identical made reached coded resolved store
  rw [Run.autofix_eq, Run.outcome_bind_of_ok taken, Run.outcome_andFinally_snd]
  refine ⟨_, ?_, rfl⟩
  rw [Run.tree_tryChanges, prepared]
  simp only
  rw [ran invocation begun here, removed]
  rfl

/-- A fixture without a golden file tells nothing. -/
theorem identicalFixtures_of_lone {tree : Tree} {codeDir : Path} {snapshot : Snapshot}
    {relative : String} (copied : snapshot.copied = [relative])
    (lone : Snapshot.pair? tree codeDir [] relative = .ok none) :
    snapshot.identicalFixtures tree codeDir [] = .ok [] := by
  rw [Snapshot.identicalFixtures, Snapshot.goldenPairs, copied, List.mapM_cons, lone]
  rfl

/-- The tree after a run in which the one file that was found was copied and put back. -/
theorem tree_autofix_single (tools : Tools) {config : Config} {included : List String}
    {world : World} {last : Tree} {base : Place} (relative shown : String)
    (fresh held stored ended left back : Tree)
    (root : config.root = .ofNames []) (all : config.excluded = [])
    (houses : Snapshot.Houses world.tree config base)
    (level : Tree.Level (Snapshot.nextScratch world).names)
    (free : world.tree.Stands (Snapshot.nextScratch world) none)
    (made : fresh = world.tree.set (Snapshot.nextScratch world).names .directory)
    (searched : fresh.search (.ofNames base) config.files = .ok [relative])
    (picked : includedPath fresh included (.ofNames base / Path.ofString relative) =
      .ok (some shown))
    (entered : fresh.makeDirectories
      (Snapshot.nextScratch world / Path.ofString relative).parent = .ok fresh)
    (copied : fresh.copy (.ofNames base / Path.ofString relative)
      (Snapshot.nextScratch world / Path.ofString relative) = .ok held)
    (lone : Snapshot.pair? held (.ofNames base) [] relative = .ok none)
    (coded : config.codeDir held = .ok (.ofNames base))
    (resolved : held.resolveStrict (.ofNames base) = .ok (.ofNames base))
    (store : held.store (world.scratch / { names := ["script-" ++ toString (world.serial + 1)] })
      (Text.encodeUtf8 config.autofix.body) = .ok stored)
    (ran : ∀ invocation, Run.Leads (tools.interpret invocation) (·.tree = stored) (·.tree = ended))
    (removed : ended.discard
      (world.scratch / { names := ["script-" ++ toString (world.serial + 1)] }) = .ok left)
    (reentered : left.makeDirectories (.ofNames base / Path.ofString relative).parent = .ok left)
    (recopied : left.copy (Snapshot.nextScratch world / Path.ofString relative)
      (.ofNames base / Path.ofString relative) = .ok back)
    (cleared : back.discardAll (Snapshot.nextScratch world) = .ok last) :
    ((Run.autofix tools config included none).outcome world).2.tree = last := by
  have taken : (Snapshot.take tools.readRules config included none).outcome world = _ :=
    Snapshot.outcome_take_single relative shown fresh held houses level free made searched picked
      entered copied
  obtain ⟨now, here, whole⟩ := tree_autofix tools root all taken (identicalFixtures_of_lone rfl lone)
    coded resolved store ran removed
  subst here
  rw [whole, Snapshot.outcome_restore_single
    (Snapshot.outcome_copyInto_eq_ok.2 ⟨_, back, reentered, recopied, rfl⟩) cleared]

/-! ### What takes no part -/

namespace TwoFixtures

/-- The tree with a directory for the copies. -/
def fresh : Tree := world.tree.set ["t", "backup-0"] .directory

/-- The tree with the text of the script as well. -/
def stored : Tree := fresh.set ["t", "script-1"] (.file [])

/-- With the directory for the copies the tree has the fixtures of the suite still. -/
theorem houses_fresh : fresh.Houses config ["x"] := by decide

/-- Nothing is copied if the run is limited to the ignored file. -/
theorem taken : (Snapshot.take Host.readRules config ["/x/a.go"] none).outcome world =
    (.ok { codeDir := .ofNames ["x"], place := .scratch (.ofNames ["t", "backup-0"]) },
      { world with tree := fresh, serial := 1 }) := by
  have made : world.tree.makeDirectory (.ofNames ["t", "backup-0"]) = .ok fresh :=
    (Tree.makeDirectory_eq_ok_iff_stands houses.unlinked (by decide)).2 ⟨by decide, rfl⟩
  have agree : Tree.AgreeBelow ["x"] world.tree fresh := .set ⟨by decide, by decide⟩
  have found : fresh.search (.ofNames ["x"]) config.files = .ok ["a.go", "b.go"] := by
    rw [← Tree.search_congr plain (by decide) agree finds.down, searched]
  have one : includedPath fresh ["/x/a.go"] (.ofNames ["x"] / Path.ofString "a.go") =
      .ok (some "/x/a.go") :=
    includedPath_eq_some_iff.2 ⟨.ofNames ["x", "a.go"],
      Tree.resolveStrict_of_settleDown houses_fresh.unlinked (by decide), by decide, by decide⟩
  have other : includedPath fresh ["/x/a.go"] (.ofNames ["x"] / Path.ofString "b.go") =
      .ok none := by
    simp only [includedPath, Tree.resolveIfThere, Tree.resolveStrict,
      Tree.resolve_eq_settleDown houses_fresh.unlinked]
    decide
  have ignored : Host.IgnoreRule.ignores? [rule] "a.go" = true := by decide
  refine Snapshot.outcome_take_eq_ok.2 ⟨_, _, rfl, houses.codeDir_eq, ruled,
    Snapshot.outcome_choosePlace_eq_ok.2 (.inr ⟨_, rfl, rfl,
      Snapshot.outcome_makeScratch_eq_ok.2 ⟨rfl, fresh, made, rfl⟩⟩), ?_⟩
  rw [Snapshot.copyAll, Run.outcome_bind_of_ok (Run.outcome_get _)]
  simp only [found]
  rw [Run.outcome_bind_of_ok (Run.outcome_ofExcept _ _ _), Snapshot.copyFound,
    Run.outcome_bind_of_ok (Run.outcome_look_of_ok one)]
  simp only [ignored, Option.isSome_some, Bool.not_true, Bool.and_false, Bool.false_eq_true,
    if_false]
  rw [Snapshot.copyFound, Run.outcome_bind_of_ok (Run.outcome_look_of_ok other)]
  rfl

/-- Both files stay as the script leaves them. -/
theorem tree_emptied :
    ((Run.autofix (Host.tools (emptying ["x"])) config ["/x/a.go"] none).outcome world).2.tree =
      world.tree.emptied ["x"] := by
  have store : fresh.store (.ofNames ["t", "script-1"]) [] = .ok stored :=
    (Tree.store_eq_ok_iff_stands houses_fresh.unlinked (by decide)).2 ⟨none, by decide, by decide, rfl⟩
  have removed : (stored.emptied ["x"]).discard (.ofNames ["t", "script-1"]) =
      .ok (fresh.emptied ["x"]) :=
    (Tree.discard_eq_ok_iff_stands (by decide) (by decide)).2 ⟨⟨[], by decide⟩, by decide⟩
  have cleared : (fresh.emptied ["x"]).discardAll (.ofNames ["t", "backup-0"]) =
      .ok (world.tree.emptied ["x"]) :=
    (Tree.discardAll_eq_ok_iff_stands (by decide) (by decide)).2 ⟨by decide, by decide⟩
  obtain ⟨last, left, whole⟩ := tree_autofix (Host.tools (emptying ["x"])) rfl rfl taken rfl
    houses_fresh.codeDir_eq houses_fresh.resolveStrict_eq store (leads_emptying _ _) removed
  rw [whole, Snapshot.restore]
  simp only [List.forM]
  rw [Run.outcome_bind_of_ok (Run.outcome_pure _ _), Run.outcome_change_of_ok (left ▸ cleared)]

/-- The fixtures of the two, emptied. -/
theorem loses {relative : String} (member : relative ∈ ["a.go", "b.go"])
    (held : world.tree.content (.ofNames ["x"] / Path.ofString relative) = .ok [1])
    (lost : (world.tree.emptied ["x"]).content (.ofNames ["x"] / Path.ofString relative) = .ok []) :
    Loses config ["/x/a.go"] world ["x"] relative := by
  refine ⟨plain, houses.codeDir_eq, ⟨_, searched, member⟩, emptying ["x"],
    changesFilesOf_emptying ["x"], ?_⟩
  rw [tree_emptied, held, lost]
  decide

/-- The fixture that is ignored is lost. -/
theorem loses_ignored : Loses config ["/x/a.go"] world ["x"] "a.go" :=
  loses (by decide) ((Tree.content_eq_ok_iff_stands houses.unlinked (by decide)).2 (by decide))
    ((Tree.content_eq_ok_iff_stands (houses.unlinked.emptied ["x"]) (by decide)).2 (by decide))

/-- The fixture that the run is not limited to is lost. -/
theorem loses_outside : Loses config ["/x/a.go"] world ["x"] "b.go" :=
  loses (by decide) ((Tree.content_eq_ok_iff_stands houses.unlinked (by decide)).2 (by decide))
    ((Tree.content_eq_ok_iff_stands (houses.unlinked.emptied ["x"]) (by decide)).2 (by decide))

end TwoFixtures

/-! ### Copies within reach -/

namespace OwnFilesInside

/-- A directory with a fixture, where the run's own files go too. -/
def world : World :=
  { tree := { nodes := [(["x"], .directory), (["x", "a.go"], .file [1])] }
    scratch := .ofNames ["x"] }

/-- The suite of the fixture. -/
def config : Config := suiteOf "x" "a.go"

/-- The tree with the directory of the copies. -/
def fresh : Tree := world.tree.set ["x", "backup-0"] .directory

/-- The tree with the copy as well. -/
def held : Tree := fresh.set ["x", "backup-0", "a.go"] (.file [1])

/-- The tree with the text of the script as well. -/
def stored : Tree := held.set ["x", "script-1"] (.file [])

/-- The tree with the fixture and its copy emptied, and the text of the script removed. -/
def left : Tree := (stored.emptied ["x"]).erase ["x", "script-1"]

/-- The directory holds the fixtures of the suite. -/
theorem houses : Snapshot.Houses world.tree config ["x"] := by decide

/-- It does so when they have been copied. -/
theorem houses_held : Snapshot.Houses held config ["x"] := by decide

/-- The fixture is found where it stands. -/
theorem searched {tree : Tree} (unlinked : tree.Unlinked)
    (stands : tree.Stands (.ofNames ["x", "a.go"]) (some (.file [1]))) :
    tree.search (.ofNames ["x"]) config.files = .ok ["a.go"] :=
  Tree.search_of_stands unlinked (by decide) (by decide) (by decide) stands

/-- The fixture is put back from a copy that the script has emptied. -/
theorem tree_emptied :
    ((Run.autofix (Host.tools (emptying ["x"])) config [] none).outcome world).2.tree =
      left.erase ["x", "backup-0"] := by
  have unlinked_fresh : fresh.Unlinked := by decide
  have unlinked_left : left.Unlinked := by decide
  have stands_fixture : fresh.Stands (.ofNames ["x", "a.go"]) (some (.file [1])) := by decide
  have free : fresh.Stands (.ofNames ["x", "backup-0", "a.go"]) none := by decide
  have copy : left.Stands (.ofNames ["x", "backup-0", "a.go"]) (some (.file [])) := by decide
  have fixture : left.Stands (.ofNames ["x", "a.go"]) (some (.file [])) := by decide
  refine tree_autofix_single (Host.tools (emptying ["x"])) "a.go" "/x/a.go" fresh held stored
    (stored.emptied ["x"]) left left rfl rfl houses (by decide) (by decide) rfl
    (searched unlinked_fresh stands_fixture) ?picked ?entered ?copied ?lone houses_held.codeDir_eq
    houses_held.resolveStrict_eq ?store (leads_emptying ["x"] stored) ?removed ?reentered ?recopied
    ?cleared
  case picked =>
    exact includedPath_eq_some_iff.2 ⟨_, Tree.resolveStrict_of_stands unlinked_fresh (by decide)
      stands_fixture, by decide, rfl⟩
  case entered => exact Tree.makeDirectories_of_stands unlinked_fresh (by decide) (by decide)
  case copied =>
    exact Tree.copy_of_stands unlinked_fresh (by decide) (by decide) (by decide) stands_fixture
      free (by simp)
  case lone =>
    simp only [Snapshot.pair?, Tree.resolveStrict, Tree.resolve_eq_settleDown houses_held.unlinked,
      Tree.isFile, Tree.nodeIs, Tree.node, Tree.locate_eq_locateDown houses_held.unlinked]
    decide
  case store =>
    exact (Tree.store_eq_ok_iff_stands houses_held.unlinked (by decide)).2
      ⟨none, by decide, by decide, by decide⟩
  case removed =>
    exact (Tree.discard_eq_ok_iff_stands (by decide) (by decide)).2 ⟨⟨[], by decide⟩, rfl⟩
  case reentered => exact Tree.makeDirectories_of_stands unlinked_left (by decide) (by decide)
  case recopied =>
    exact Tree.copy_of_stands unlinked_left (by decide) (by decide) (by decide) copy fixture
      (by simp)
  case cleared =>
    exact (Tree.discardAll_eq_ok_iff_stands unlinked_left (by decide)).2 ⟨by decide, rfl⟩

/-- The fixture is lost with its copy if the run's own files go to the fixtures' directory. -/
theorem loses : Loses config [] world ["x"] "a.go" := by
  have stands : world.tree.Stands (.ofNames ["x", "a.go"]) (some (.file [1])) := by decide
  have held : world.tree.content (.ofNames ["x"] / Path.ofString "a.go") = .ok [1] :=
    (Tree.content_eq_ok_iff_stands houses.unlinked (by decide)).2 stands
  have lost : (left.erase ["x", "backup-0"]).content (.ofNames ["x"] / Path.ofString "a.go") =
      .ok [] :=
    (Tree.content_eq_ok_iff_stands (by decide) (by decide)).2 (by decide)
  refine ⟨by decide, houses.codeDir_eq, ⟨_, searched houses.unlinked stands, by decide⟩,
    emptying ["x"], changesFilesOf_emptying ["x"], ?_⟩
  rw [tree_emptied, held, lost]
  decide

end OwnFilesInside

namespace PatternGoesUp

/-- A directory and a fixture beside it that lies as far below the directory above as the directory
itself lies below the root. -/
def world : World :=
  { tree := { nodes := [(["x"], .directory), (["x", "y"], .directory), (["x", "x"], .directory),
      (["x", "x", "y"], .directory), (["x", "x", "y", "a.go"], .file [1])] }
    scratch := .ofNames [] }

/-- The suite of the fixture. -/
def config : Config := suiteOf "x/y" "../x/y/a.go"

/-- The tree with the directory of the copies. -/
def fresh : Tree := world.tree.set ["backup-0"] .directory

/-- The tree with the copy as well, which goes to the fixtures' directory. -/
def held : Tree := fresh.set ["x", "y", "a.go"] (.file [1])

/-- The tree with the text of the script as well. -/
def stored : Tree := held.set ["script-1"] (.file [])

/-- The tree with the copy emptied, and the text of the script removed. -/
def left : Tree := (stored.emptied ["x", "y"]).erase ["script-1"]

/-- The tree with the fixture put back from the copy. -/
def back : Tree := left.set ["x", "x", "y", "a.go"] (.file [])

/-- The directory is that of the suite. -/
theorem houses : Snapshot.Houses world.tree config ["x", "y"] := by decide

/-- It is so when the fixture has been copied. -/
theorem houses_held : Snapshot.Houses held config ["x", "y"] := by decide

/-- The pattern names the steps to the fixture. -/
theorem read_pattern : SearchPattern.read config.files =
    .ok ⟨[.named "..", .named "x", .named "y", .named "a.go"], false⟩ := by
  decide

/-- The fixture is found, before the directory for the copies is made and after it. -/
theorem searched :
    world.tree.search (.ofNames ["x", "y"]) config.files = .ok ["../x/y/a.go"] ∧
      fresh.search (.ofNames ["x", "y"]) config.files = .ok ["../x/y/a.go"] := by
  have unlinked_fresh : fresh.Unlinked := by decide
  constructor <;> refine Tree.search_of_findRows ["..", "x", "y", "a.go"] (by decide) read_pattern ?_
  · simp only [Tree.findRows, Tree.select_cons, Tree.nextRows, Tree.passes, Tree.isDirectory,
      Tree.isPresent, Tree.isFile, Tree.nodeIs, Tree.node, Tree.locate_eq_locateDown houses.unlinked]
    decide
  · simp only [Tree.findRows, Tree.select_cons, Tree.nextRows, Tree.passes, Tree.isDirectory,
      Tree.isPresent, Tree.isFile, Tree.nodeIs, Tree.node, Tree.locate_eq_locateDown unlinked_fresh]
    decide

/-- The fixture is put back from a copy that the script has emptied. -/
theorem tree_emptied :
    ((Run.autofix (Host.tools (emptying ["x", "y"])) config [] none).outcome world).2.tree =
      back.erase ["backup-0"] := by
  have unlinked_fresh : fresh.Unlinked := by decide
  have unlinked_left : left.Unlinked := by decide
  refine tree_autofix_single (Host.tools (emptying ["x", "y"])) "../x/y/a.go" "/x/x/y/a.go" fresh
    held stored (stored.emptied ["x", "y"]) left back rfl rfl houses (by decide) (by decide) rfl
    searched.2 ?picked ?entered ?copied ?lone houses_held.codeDir_eq houses_held.resolveStrict_eq
    ?store (leads_emptying ["x", "y"] stored) ?removed ?reentered ?recopied ?cleared
  case picked =>
    exact includedPath_eq_some_iff.2 ⟨.ofNames ["x", "x", "y", "a.go"],
      Tree.resolveStrict_of_settleDown unlinked_fresh (by decide), by decide, rfl⟩
  case entered => exact Tree.makeDirectories_of_locateDown unlinked_fresh ["x", "y"] (by decide)
  case copied =>
    exact Tree.copy_of_locateDown unlinked_fresh ["x", "x", "y", "a.go"] ["x", "y", "a.go"] none
      (by decide) (by decide) (by decide) (by simp)
  case lone =>
    simp only [Snapshot.pair?, Tree.resolveStrict, Tree.resolve_eq_settleDown houses_held.unlinked,
      Tree.isFile, Tree.nodeIs, Tree.node, Tree.locate_eq_locateDown houses_held.unlinked]
    decide
  case store =>
    exact (Tree.store_eq_ok_iff_stands houses_held.unlinked (by decide)).2
      ⟨none, by decide, by decide, by decide⟩
  case removed =>
    exact (Tree.discard_eq_ok_iff_stands (by decide) (by decide)).2 ⟨⟨[], by decide⟩, rfl⟩
  case reentered =>
    exact Tree.makeDirectories_of_locateDown unlinked_left ["x", "x", "y"] (by decide)
  case recopied =>
    exact Tree.copy_of_locateDown unlinked_left ["x", "y", "a.go"] ["x", "x", "y", "a.go"]
      (some (.file [1])) (by decide) (by decide) (by decide) (by simp)
  case cleared =>
    exact (Tree.discardAll_eq_ok_iff_stands (by decide) (by decide)).2 ⟨by decide, rfl⟩

/-- The fixture is lost with its copy if the pattern goes up and down again to the fixtures'
directory. -/
theorem loses : Loses config [] world ["x", "y"] "../x/y/a.go" := by
  have held : world.tree.content (.ofNames ["x", "y"] / Path.ofString "../x/y/a.go") = .ok [1] :=
    Tree.content_of_locateDown houses.unlinked ["x", "x", "y", "a.go"] (by decide)
  have lost : (back.erase ["backup-0"]).content
      (.ofNames ["x", "y"] / Path.ofString "../x/y/a.go") = .ok [] :=
    Tree.content_of_locateDown (by decide) ["x", "x", "y", "a.go"] (by decide)
  refine ⟨by decide, houses.codeDir_eq, ⟨_, searched.1, by decide⟩, emptying ["x", "y"],
    changesFilesOf_emptying ["x", "y"], ?_⟩
  rw [tree_emptied, held, lost]
  decide

end PatternGoesUp

/-- Autofix in place does not leave every fixture that was found as it was. A fixture is lost that
the ignore file names, or that the run is not limited to; so is one that takes part if its copy can
be reached by the script, since the run's own files go to the fixtures' directory, or since the
pattern goes up. -/
theorem autofix_loses_fixtures :
    Loses TwoFixtures.config ["/x/a.go"] TwoFixtures.world ["x"] "a.go" ∧
      Loses TwoFixtures.config ["/x/a.go"] TwoFixtures.world ["x"] "b.go" ∧
      Loses OwnFilesInside.config [] OwnFilesInside.world ["x"] "a.go" ∧
      Loses PatternGoesUp.config [] PatternGoesUp.world ["x", "y"] "../x/y/a.go" :=
  ⟨TwoFixtures.loses_ignored, TwoFixtures.loses_outside, OwnFilesInside.loses, PatternGoesUp.loses⟩

end LintBench
