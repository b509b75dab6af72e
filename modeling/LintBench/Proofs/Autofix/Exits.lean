import LintBench.Proofs.Autofix.InPlace

/-!
# Every way out of Autofix in place

Once a snapshot was made, a run of Autofix in place can end in many ways: a fixture
does not resolve any more, the script cannot be started or fails, a golden file
cannot be read. In each of them the fixtures that the snapshot holds are put back,
the run's own files are gone, and every other file is as the script left it.
-/

namespace LintBench

/-- The place of a name that a run makes up in its scratch directory. -/
def World.ownPlace (world : World) (start : String) (serial : Nat) : Place :=
  world.scratch.names ++ [start ++ toString serial]

/-- Whether the names that a run will make up are not in use: nothing stands in their places, and
the fixtures' directory is not there. -/
def World.HasFreshNames (world : World) (base : Place) : Prop :=
  ∀ start ∈ ["backup-", "script-"], ∀ serial, world.serial ≤ serial →
    world.tree.get? (world.ownPlace start serial) = none ∧
      ¬ world.ownPlace start serial <+: base

/-- A name that is made up elsewhere is not in the fixtures' directory. -/
theorem KeepsWithin.own_off {config : Config} {world : World} {base : Place} {start : String}
    {serial : Nat} (within : KeepsWithin config world base)
    (free : ¬ world.ownPlace start serial <+: base) : ¬ base <+: world.ownPlace start serial := by
  intro under
  rcases List.prefix_concat_iff.1 under with whole | above
  · exact free (whole ▸ List.prefix_refl base)
  · exact within.outside above

section Left

variable {readRules : IgnoreReader} {interpret : Interpreter} {config : Config}
  {world held : World} {base : Place} {store : Path} {included found : List String}
  {snapshot : Snapshot}
  (taken : Taken readRules world base store included found snapshot held)
  (within : KeepsWithin config world base) (fresh : world.HasFreshNames base)
include taken within fresh

/-- The text of a script goes to a place where nothing stood, neither in the fixtures' directory nor
among the copies. -/
theorem Taken.script_fresh {file : Path}
    (same : file = held.scratch / { names := ["script-" ++ toString held.serial] }) :
    IsOwn base store file ∧ Apart base file.names ∧
      ∀ names, held.tree.get? (file.names ++ names) = none := by
  subst same
  have own : IsOwn base store (held.scratch / { names := ["script-" ++ toString held.serial] }) := by
    rw [taken.scratch]
    exact isOwn_script within.scratch within.outside taken.fresh _
  obtain ⟨absent, free⟩ := fresh "script-" (by simp) held.serial (by rw [taken.serial]; omega)
  have names_eq : (held.scratch / ({ names := ["script-" ++ toString held.serial] } : Path)).names =
      world.ownPlace "script-" held.serial := by
    rw [Path.names_join, taken.scratch, World.ownPlace]
  rw [names_eq]
  refine ⟨own, ⟨within.own_off free, free⟩, fun names => ?_⟩
  rw [taken.mirror.outside, within.plain.get?_below absent]
  intro under
  rw [taken.fresh, Snapshot.nextScratch, Path.names_join, World.ownPlace, List.append_assoc,
    List.prefix_append_right_inj, List.singleton_append, List.cons_prefix_cons] at under
  exact absurd under.1 (by simp [String.ext_iff])

variable (config) in
/-- When the fixtures are put back, the files of their directory are those that the script has left,
and the others those that were there after the snapshot. The text of the script stands where it was
written, which the script does not reach. -/
theorem Taken.files_left (changes : interpret.ChangesBelow base snapshot.places) (place : Place)
    (content : Text.Bytes) :
    (base <+: place →
      (((Run.tryChanges interpret config none snapshot).outcome held).2.tree.get? place =
          some (.file content) ↔
        (Run.leftByScript interpret config none snapshot held).get? place =
          some (.file content))) ∧
    (¬ base <+: place →
      (((Run.tryChanges interpret config none snapshot).outcome held).2.tree.get? place =
          some (.file content) ↔
        held.tree.get? place = some (.file content))) := by
  rw [Run.tree_tryChanges, Run.leftByScript]
  rcases ran : (Run.prepared config none snapshot).outcome held with
    ⟨fault | ⟨identical, file, invocation⟩, begun⟩
  · obtain ⟨ready, made, same⟩ := Run.tree_prepared ran
    refine ⟨fun _ => ?_, fun _ => ?_⟩
    · rfl
    · simp only [same]
      exact made.addsDirectories.file_iff place content
  · obtain ⟨ready, made, here, stored⟩ := Run.tree_prepared ran
    obtain ⟨own, apart, absent⟩ := taken.script_fresh within fresh here
    have untouched := (taken.untouched within.plain.toUnlinked).ready made
    obtain ⟨differ, recoverable⟩ := Untouched.after_script invocation taken.apart taken.codeDir
      taken.fixtures changes (untouched.storeFile own stored)
    obtain ⟨node, stands, -, written⟩ :=
      (Tree.store_eq_ok_iff_stands untouched.unlinked own.level).1 stored
    have inner : file.names ≠ [] := fun root => apart.above (root ▸ List.nil_prefix)
    have remains : ((interpret invocation).outcome begun).2.tree.Stands file
        (some (.file (Text.encodeUtf8 config.autofix.body))) := by
      have before := stands.set_self (.file (Text.encodeUtf8 config.autofix.body)) inner
      rw [← written] at before
      refine before.congr fun front above => (differ front).resolve_right fun ⟨under, _⟩ => ?_
      exact apart.below (under.trans above)
    have removed := (Tree.discard_eq_ok_iff_stands recoverable.unlinked own.level).2
      ⟨⟨_, remains⟩, rfl⟩
    simp only [removed, Except.toOption, Option.getD_some]
    constructor
    · intro under
      rw [Tree.get?_erase_of_not_below]
      intro below
      exact (List.prefix_or_prefix_of_prefix below under).elim apart.above apart.below
    · intro off
      by_cases below : file.names <+: place
      · obtain ⟨names, rfl⟩ := below
        rw [Tree.get?_erase_of_below _ (by simp [inner]) (List.prefix_append _ _), absent]
      · rw [Tree.get?_erase_of_not_below _ below,
          (differ place).resolve_right fun ⟨under, _⟩ => off under, written,
          Tree.get?_set _ _ _ _ inner, if_neg (by rintro rfl; exact below (List.prefix_refl _))]
        exact made.addsDirectories.file_iff place content

section Back

variable {last : Tree} (changes : interpret.ChangesBelow base snapshot.places)
  (back : PutBack world.tree base store snapshot.copied
    ((Run.tryChanges interpret config none snapshot).outcome held).2.tree last)
include changes back

/-- When the fixtures were put back, the files outside their directory are those that were there
before the run. -/
theorem Taken.file_outside_iff {place : Place} (content : Text.Bytes) (off : ¬ base <+: place) :
    last.get? place = some (.file content) ↔ world.tree.get? place = some (.file content) := by
  have left := (taken.files_left config within fresh changes place content).2 off
  by_cases copy : store.names <+: place
  · obtain ⟨names, rfl⟩ := copy
    have absent : world.tree.get? (store.names ++ names) = none := by
      refine within.plain.get?_below ?_ names
      rw [taken.fresh, Snapshot.nextScratch, Path.names_join]
      exact (fresh "backup-" (by simp) world.serial (Nat.le_refl _)).1
    rw [back.gone _ (List.prefix_append _ _), absent]
  · by_cases way : ∃ relative ∈ snapshot.copied, LeadsTo world.tree base relative place
    · obtain ⟨relative, member, names, bytes, fixture, above⟩ := way
      rw [back.restored relative member names bytes fixture place above]
    · push Not at way
      rw [back.others place copy way, left, taken.mirror.outside place copy]

/-- When the fixtures were put back, the other files of their directory are those that the script
left. -/
theorem Taken.file_inside_iff (recoverable : Recoverable world.tree base store snapshot.copied
      ((Run.tryChanges interpret config none snapshot).outcome held).2.tree)
    {place : Place} (content : Text.Bytes) (under : base <+: place)
    (other : place ∉ snapshot.places) :
    last.get? place = some (.file content) ↔
      (Run.leftByScript interpret config none snapshot held).get? place =
        some (.file content) := by
  rw [← (taken.files_left config within fresh changes place content).1 under]
  by_cases way : ∃ relative ∈ snapshot.copied, LeadsTo world.tree base relative place
  · obtain ⟨relative, member, names, bytes, fixture, above⟩ := way
    have further : place ≠ base ++ names := by
      rintro rfl
      exact other (fixture.mem_places taken.codeDir member)
    have entered := fixture.above above further
    have clear := recoverable.clear relative member names bytes fixture
    rw [back.restored relative member names bytes fixture place above, entered]
    simpa using clear.not_file above further content
  · push Not at way
    have off : ¬ store.names <+: place := fun copy =>
      (List.prefix_or_prefix_of_prefix copy under).elim taken.apart.above taken.apart.below
    rw [back.others place off way]

end Back

end Left

/-- A snapshot that was made holds what was found, if the names that the run makes up are not in
use. -/
theorem KeepsWithin.exists_taken {readRules : IgnoreReader} {config : Config}
    {world held : World} {base : Place} {included : List String} {snapshot : Snapshot}
    (within : KeepsWithin config world base)
    (fresh : world.HasFreshNames base)
    (taken : (Snapshot.take readRules config included none).outcome world = (.ok snapshot, held)) :
    ∃ found store, Taken readRules world base store included found snapshot held := by
  have free (store : Path) (start : World)
      (made : Snapshot.makeScratch.outcome world = (.ok store, start)) :
      ¬ store.names <+: base := by
    obtain ⟨rfl, -⟩ := Snapshot.outcome_makeScratch_eq_ok.1 made
    exact (fresh "backup-" (by simp) world.serial (Nat.le_refl _)).2
  obtain ⟨found, finds⟩ := within.exists_finds free taken
  exact ⟨found, finds.taken free taken⟩

/-! ## The tree when the run has ended -/

/-- Whether a run that made a snapshot has cleaned up: the fixtures that the snapshot holds are as
they were, nothing of the run's own is left, and all other files are those that the script left. -/
structure CleanedUp (interpret : Interpreter) (config : Config) (world held : World) (base : Place)
    (snapshot : Snapshot) (last : Tree) : Prop where
  /-- Every fixture that the snapshot holds has the content that it had before the run. -/
  fixtures : ∀ relative ∈ snapshot.copied, ∃ content,
    world.tree.content (.ofNames base / Path.ofString relative) = .ok content ∧
      last.content (.ofNames base / Path.ofString relative) = .ok content
  /-- The directory of the copies is gone with all that was in it. -/
  copies : ∀ place, snapshot.place.directory.names <+: place → last.get? place = none
  /-- The text of the script is in no file of the run's own. -/
  script : ∀ serial content, world.serial ≤ serial →
    last.get? (world.ownPlace "script-" serial) ≠ some (.file content)
  /-- Outside the fixtures' directory there are the files that were there before the run. -/
  outside : ∀ place content, ¬ base <+: place →
    (last.get? place = some (.file content) ↔ world.tree.get? place = some (.file content))
  /-- In the fixtures' directory the other files are those that the script left. -/
  inside : ∀ place content, base <+: place → place ∉ snapshot.places →
    (last.get? place = some (.file content) ↔
      (Run.leftByScript interpret config none snapshot held).get? place = some (.file content))

/-- Once a snapshot was made, a run of Autofix in place ends with what became of the changes, be it
a result or a fault, and it has cleaned up. -/
theorem cleanedUp_autofix {tools : Tools} {config : Config} {world held : World}
    {base : Place} {included : List String} {snapshot : Snapshot}
    (within : KeepsWithin config world base) (fresh : world.HasFreshNames base)
    (taken : (Snapshot.take tools.readRules config included none).outcome world =
      (.ok snapshot, held))
    (changes : tools.interpret.ChangesBelow base snapshot.places) :
    ((Run.autofix tools config included none).outcome world).1 =
        ((Run.tryChanges tools.interpret config none snapshot).outcome held).1 ∧
      CleanedUp tools.interpret config world held base snapshot
        ((Run.autofix tools config included none).outcome world).2.tree := by
  obtain ⟨found, store, kept⟩ := within.exists_taken fresh taken
  obtain ⟨final, ran, recoverable, back⟩ := kept.exists_restore config within.plain
    within.scratch within.outside changes
  rw [Run.autofix_eq, Run.outcome_bind_of_ok taken, ran]
  have outside (place : Place) (content : Text.Bytes) (off : ¬ base <+: place) :
      final.tree.get? place = some (.file content) ↔
        world.tree.get? place = some (.file content) :=
    kept.file_outside_iff within fresh changes back content off
  refine ⟨rfl, ?fixtures, ?copies, ?script, outside, ?inside⟩
  case fixtures =>
    intro relative member
    obtain ⟨names, content, fixture⟩ := kept.fixtures relative member
    exact ⟨content,
      fixture.content_of_restored within.plain.toUnlinked (back.restored relative member)⟩
  case copies =>
    intro place under
    rw [kept.place] at under
    exact back.gone place under
  case script =>
    intro serial content later here
    obtain ⟨absent, free⟩ := fresh "script-" (by simp) serial later
    rw [outside _ content (within.own_off free), absent] at here
    cases here
  case inside =>
    intro place content under other
    exact kept.file_inside_iff within fresh changes back recoverable content under other

/-! ### A script that removes a fixture and fails -/

/-- A script that removes what stands at a place and ends with a status. -/
def removing (place : Place) (status : Int) : Interpreter := fun _ => do
  modify fun world => { world with tree := world.tree.erase place }
  return { status }

/-- Removing what stands in a directory leaves room for the files that stood there. -/
theorem changesBelow_removing {base place : Place} (under : base <+: place) (status : Int)
    (places : List Place) : (removing place status).ChangesBelow base places := by
  intro invocation world unlinked standing
  have left : ((removing place status invocation).outcome world).2.tree =
      world.tree.erase place := rfl
  rw [left]
  constructor
  · intro asked
    by_cases below : place <+: asked
    · refine .inr ⟨under.trans below, fun target => ?_⟩
      rcases world.tree.get?_erase_or place asked with gone | same
      · simp [gone]
      · rw [same]
        exact unlinked asked target
    · exact .inl (Tree.get?_erase_of_not_below _ below)
  · intro asked member
    obtain ⟨content, stands⟩ := standing asked member
    have same : Tree.DifferByFiles base world.tree world.tree := fun _ => .inl rfl
    exact (stands.clear_of_differByFiles same).erase place

namespace LineEnds

/-- A directory with a fixture and its golden file, which end their line in two ways. -/
def world : World :=
  { tree := { nodes := [(["t"], .directory), (["x"], .directory),
      (["x", "a.go"], .file [120, 13, 10]), (["x", "a.go.golden"], .file [120, 10])] }
    scratch := .ofNames ["t"] }

/-- The suite of the fixture. -/
def config : Config := suiteOf "x" "a.go"

/-- The tree with a directory for the copies. -/
def fresh : Tree := world.tree.set ["t", "backup-0"] .directory

/-- The tree with the copy as well. -/
def held : Tree := fresh.set ["t", "backup-0", "a.go"] (.file [120, 13, 10])

/-- The directory holds the fixtures of the suite. -/
theorem houses : Snapshot.Houses world.tree config ["x"] := by decide

/-- The files and the script stay inside the directory of the fixture. -/
theorem within : KeepsWithin config world ["x"] where
  plain := by decide
  coded := houses.codeDir_eq
  down := by
    rw [Tree.GoesDown]
    decide
  scratch := by decide
  outside := by decide

/-- No name in the scratch directory is in use. -/
theorem hasFreshNames : world.HasFreshNames ["x"] := by
  intro start _ serial _
  have inner : world.ownPlace start serial = ["t", start ++ toString serial] := rfl
  rw [inner]
  constructor
  · simp [Tree.get?, Tree.find?, world]
  · simp

/-- The snapshot of the fixture. -/
def snapshot : Snapshot where
  codeDir := .ofNames ["x"]
  place := .scratch (.ofNames ["t", "backup-0"])
  copied := ["a.go"]

/-- The fixture is copied. -/
theorem taken (readRules : IgnoreReader) : (Snapshot.take readRules config [] none).outcome world =
    (.ok snapshot, { world with tree := held, serial := 1 }) := by
  have fixture : fresh.Stands (.ofNames ["x", "a.go"]) (some (.file [120, 13, 10])) := by decide
  have free : fresh.Stands (.ofNames ["t", "backup-0", "a.go"]) none := by decide
  have unlinked : fresh.Unlinked := by decide
  refine Snapshot.outcome_take_single "a.go" "/x/a.go" fresh held houses (by decide) (by decide) rfl
    ?searched ?picked ?entered ?copied
  case searched =>
    exact Tree.search_of_stands unlinked (by decide) (by decide) (by decide) fixture
  case picked =>
    exact includedPath_eq_some_iff.2 ⟨_, Tree.resolveStrict_of_stands unlinked (by decide) fixture,
      by decide, rfl⟩
  case entered => exact Tree.makeDirectories_of_stands unlinked (by decide) (by decide)
  case copied =>
    exact Tree.copy_of_stands unlinked (by decide) (by decide) (by decide) fixture free (by simp)

end LineEnds

/-- The fixture that a failing script has removed is there again, and the copies are gone. -/
theorem cleanedUp_autofix_removed :
    ((Run.autofix (Host.tools (removing ["x", "a.go"] 1)) LineEnds.config [] none).outcome
        LineEnds.world).2.tree.content (.ofNames ["x"] / Path.ofString "a.go") = .ok [120, 13, 10] ∧
      ((Run.autofix (Host.tools (removing ["x", "a.go"] 1)) LineEnds.config [] none).outcome
        LineEnds.world).2.tree.get? ["t", "backup-0"] = none := by
  have under : ["x"] <+: ["x", "a.go"] := by decide
  have changes : (Host.tools (removing ["x", "a.go"] 1)).interpret.ChangesBelow ["x"]
      LineEnds.snapshot.places :=
    changesBelow_removing under 1 _
  obtain ⟨-, cleaned⟩ := cleanedUp_autofix LineEnds.within LineEnds.hasFreshNames
    (LineEnds.taken _) changes
  have read : LineEnds.world.tree.content (.ofNames ["x"] / Path.ofString "a.go") =
      .ok [120, 13, 10] :=
    (Tree.content_eq_ok_iff_stands LineEnds.houses.unlinked (by decide)).2 (by decide)
  obtain ⟨content, before, after⟩ := cleaned.fixtures "a.go" (by decide)
  rw [read] at before
  cases before
  exact ⟨after, cleaned.copies _ (List.prefix_refl _)⟩

end LintBench
