import LintBench.Proofs.Autofix.Copying
import LintBench.Proofs.Files.Finding

/-!
# The copies of a snapshot

In a tree without links the copies of a snapshot mirror the fixtures: what stands
in the directory of the copies stands below the fixtures' directory too. All
else is as it was, also when making the snapshot fails.
-/

namespace LintBench

open Text (Bytes)

/-- A tree in which a place mirrors another one of the tree as it was: whatever stands below the one
stood below the other, and nothing else has changed. -/
structure Mirrors (origin : Tree) (base store : Place) (tree : Tree) : Prop where
  /-- The mirroring place is a directory, and so are those above it. -/
  enterable : tree.Enterable store
  /-- Elsewhere stands what stood there. -/
  outside : ∀ place, ¬ store <+: place → tree.get? place = origin.get? place
  /-- Below it stands what stood below the mirrored place. -/
  inside : ∀ names node, names ≠ [] → tree.get? (store ++ names) = some node →
    origin.get? (base ++ names) = some node

namespace Mirrors

variable {origin tree : Tree} {base store : Place}

/-- A mirror of what has no links has none. -/
theorem unlinked (mirror : Mirrors origin base store tree) (plain : origin.Unlinked) :
    tree.Unlinked := by
  intro place target found
  by_cases under : store <+: place
  · obtain ⟨names, rfl⟩ := under
    by_cases root : names = []
    · subst root
      rw [List.append_nil, mirror.enterable store (List.prefix_refl store)] at found
      cases found
    · exact plain _ _ (mirror.inside names _ root found)
  · rw [mirror.outside place under] at found
    exact plain _ _ found

/-- What stood below the mirrored place still stands there. -/
theorem stands (mirror : Mirrors origin base store tree) (apart : Apart base store)
    {names : List String} {node : Option Node}
    (stood : origin.Stands (.ofNames (base ++ names)) node) :
    tree.Stands (.ofNames (base ++ names)) node :=
  stood.congr fun front above => mirror.outside front (apart.not_below_of_above above)

/-- Directories that stood below the mirrored place can be made in the mirror. -/
theorem makeDirectories {after : Tree} {path : Path} {names : List String}
    (mirror : Mirrors origin base store tree) (plain : origin.Unlinked)
    (here : path.names = store ++ names) (level : Tree.Level path.names)
    (stood : ∀ front, front <+: names → origin.get? (base ++ front) = some .directory)
    (made : tree.makeDirectories path = .ok after) : Mirrors origin base store after := by
  have opened := Tree.get?_makeDirectories (mirror.unlinked plain) level made
  rw [here] at opened
  constructor
  case enterable =>
    intro front above
    rw [opened, if_pos (above.trans (List.prefix_append store names))]
  case outside =>
    intro place apart
    rw [opened]
    split
    · rename_i onTheWay
      have above : place <+: store :=
        (List.prefix_or_prefix_of_prefix onTheWay (List.prefix_append store names)).resolve_right apart
      rw [← mirror.outside place apart, mirror.enterable place above]
    · exact mirror.outside place apart
  case inside =>
    intro row node inner found
    rw [opened] at found
    split at found
    · rename_i onTheWay
      cases found
      exact stood row ((List.prefix_append_right_inj store).1 onTheWay)
    · exact mirror.inside row node inner found

/-- What stood below the mirrored place can be set in the mirror. -/
theorem set {names : List String} {node : Node} (mirror : Mirrors origin base store tree)
    (inner : names ≠ []) (stood : origin.get? (base ++ names) = some node) :
    Mirrors origin base store (tree.set (store ++ names) node) := by
  have later {place : Place} : (tree.set (store ++ names) node).get? place =
      if store ++ names = place then some node else tree.get? place :=
    Tree.get?_set tree _ place node (by simp [inner])
  constructor
  case enterable =>
    intro front above
    rw [later, if_neg (Tree.ne_append_of_above above inner).symm, mirror.enterable front above]
  case outside =>
    intro place apart
    rw [later, if_neg, mirror.outside place apart]
    rintro rfl
    exact apart (List.prefix_append store names)
  case inside =>
    intro row other deeper found
    rw [later] at found
    split at found
    · rename_i same
      cases found
      rwa [← List.append_cancel_left same]
    · exact mirror.inside row other deeper found

end Mirrors

/-! ## Copying into a mirror -/

/-- Whether a found file is one of a directory: its names lead down from there to a file. -/
structure IsFixture (tree : Tree) (base : Place) (relative : String) (names : List String)
    (content : Bytes) : Prop where
  /-- The names are those that are told. -/
  told : Path.ofString relative = { names }
  /-- There is some name. -/
  inner : names ≠ []
  /-- They go down. -/
  level : Tree.Level (base ++ names)
  /-- They lead to a file. -/
  stands : tree.Stands (.ofNames (base ++ names)) (some (.file content))

namespace IsFixture

variable {tree : Tree} {base : Place} {relative : String} {names : List String} {content : Bytes}

/-- The path of a file of a directory. -/
theorem path_eq (fixture : IsFixture tree base relative names content) :
    Path.ofNames base / Path.ofString relative = .ofNames (base ++ names) := by
  rw [fixture.told, Tree.ofNames_join]

/-- A found file has one row of names and one content. -/
theorem unique (fixture : IsFixture tree base relative names content) {more : List String}
    {bytes : Bytes} (other : IsFixture tree base relative more bytes) :
    names = more ∧ content = bytes := by
  have told := fixture.told
  rw [other.told] at told
  cases told
  have found := fixture.stands.found
  rw [other.stands.found] at found
  cases found
  exact ⟨rfl, rfl⟩

/-- Directories stand on the way to a file. -/
theorem above (fixture : IsFixture tree base relative names content) {front : Place}
    (under : front <+: base ++ names) (further : front ≠ base ++ names) :
    tree.get? front = some .directory :=
  (fixture.stands.directory_above under further).found

end IsFixture

/-- The names of a path that goes on along others. -/
theorem Path.names_join (path : Path) (names : List String) :
    (path / ({ names } : Path)).names = path.names ++ names := rfl

/-- The parent of a path that goes on along others. -/
theorem Path.names_parent_join (path : Path) {names : List String} (inner : names ≠ []) :
    (path / ({ names } : Path)).parent.names = path.names ++ names.dropLast :=
  List.dropLast_append_of_ne_nil inner

section Copies

variable {origin : Tree} {base : Place} {store : Path} (plain : origin.Plain)
  (apart : Apart base store.names)
include plain apart

section File

variable {world : World} {relative : String} {names : List String} {content : Bytes}
  (levelStore : Tree.Level store.names) (mirror : Mirrors origin base store.names world.tree)
  (fixture : IsFixture origin base relative names content)
include levelStore mirror fixture

omit plain apart mirror in
/-- The path of a copy goes down. -/
theorem level_copy : Tree.Level (store / ({ names } : Path)).names :=
  Tree.level_append.2 ⟨levelStore, (Tree.level_append.1 fixture.level).2⟩

omit apart in
/-- The directories that are made for a copy stand below the mirrored place too. -/
theorem mirrors_makeDirectories {directories : Tree}
    (made : world.tree.makeDirectories (store / ({ names } : Path)).parent = .ok directories) :
    Mirrors origin base store.names directories := by
  have here := Path.names_parent_join store fixture.inner
  refine mirror.makeDirectories plain.toUnlinked here ?_ (fun front above => ?_) made
  · rw [here]
    exact Tree.level_append.2 ⟨levelStore, fun name member =>
      (Tree.level_append.1 fixture.level).2 name (List.dropLast_subset names member)⟩
  · obtain ⟨above, further⟩ := (Tree.prefix_dropLast_iff fixture.inner).1 above
    exact fixture.above ((List.prefix_append_right_inj base).2 above)
      fun whole => further (List.append_cancel_left whole)

/-- A mirror into which a file of the mirrored place was copied mirrors that file too. -/
theorem stands_copyInto {last : World}
    (ran : (Snapshot.copyInto (.ofNames (base ++ names)) (store / { names })).outcome world =
      (.ok (), last)) :
    Mirrors origin base store.names last.tree ∧
      last.tree.Stands (store / { names }) (some (.file content)) := by
  obtain ⟨directories, tree, made, copied, rfl⟩ := Snapshot.outcome_copyInto_eq_ok.1 ran
  have mirror := mirrors_makeDirectories plain levelStore mirror fixture made
  have level := level_copy levelStore fixture
  have unlinked := mirror.unlinked plain.toUnlinked
  have stood := fixture.stands.found
  have free : directories.get? (store / ({ names } : Path)).names ≠ some .directory := by
    intro found
    have below := mirror.inside names _ fixture.inner found
    rw [show origin.get? (base ++ names) = some (.file content) from stood] at below
    cases below
  obtain ⟨other, there, ⟨node, stands⟩, rfl⟩ :=
    Tree.copy_eq_ok unlinked fixture.level level free copied
  have same : other = content := by
    have found := (mirror.stands apart fixture.stands).found
    rw [there.found] at found
    cases found
    rfl
  subst same
  refine ⟨mirror.set fixture.inner stood, stands.set_self _ ?_⟩
  simp [Path.names_join, fixture.inner]

/-- Whatever becomes of copying a file of the mirrored place, the mirror stays one. -/
theorem mirrors_copyInto : Mirrors origin base store.names
    ((Snapshot.copyInto (.ofNames (base ++ names)) (store / { names })).outcome world).2.tree := by
  cases ran : (Snapshot.copyInto (.ofNames (base ++ names)) (store / { names })).outcome world with
  | mk result last =>
    cases result with
    | ok => exact (stands_copyInto plain apart levelStore mirror fixture ran).1
    | error fault =>
      rw [Snapshot.outcome_copyInto] at ran
      split at ran
      · cases ran
        exact mirror
      · rename_i directories made
        split at ran
        · cases ran
          exact mirrors_makeDirectories plain levelStore mirror fixture made
        · cases ran

end File

/-! ## Copying what was found -/

/-- A file that was copied: it stands in the mirror as well. -/
def IsCopied (origin : Tree) (base : Place) (store : Path) (tree : Tree) (relative : String) : Prop :=
  ∃ names content, IsFixture origin base relative names content ∧
    tree.Stands (store / { names }) (some (.file content))

omit plain apart in
/-- Whether a file takes part does not depend on what else stands in a tree without links. -/
theorem IsFixture.takesPart_iff {tree : Tree} {relative : String} {names : List String}
    {content : Bytes} {included : List String} {ignored : String → Bool}
    (fixture : IsFixture origin base relative names content) (unlinked : tree.Unlinked)
    (stands : tree.Stands (.ofNames (base ++ names)) (some (.file content))) :
    Snapshot.TakesPart tree (.ofNames base) included ignored relative ↔
      isIncluded included (Path.ofNames (base ++ names)).toString = true ∧
        ignored relative = false := by
  have resolved := Tree.resolveStrict_of_stands unlinked fixture.level stands
  rw [Snapshot.TakesPart, fixture.path_eq]
  refine and_congr_left fun _ => ?_
  simp only [includedPath_eq_some_iff, resolved]
  constructor
  · rintro ⟨_, _, ⟨⟩, rfl, within⟩
    exact within
  · exact fun within => ⟨_, _, rfl, rfl, within⟩

omit plain apart in
/-- A copy stays the copy of a file in a mirror that grows. -/
theorem IsCopied.extend {tree last : Tree} {relative : String}
    (copied : IsCopied origin base store tree relative) (grown : tree.Extends last)
    (mirror : Mirrors origin base store.names last) :
    IsCopied origin base store last relative := by
  obtain ⟨names, content, fixture, stands⟩ := copied
  obtain ⟨next, there, kind⟩ := stands.extend grown
  have mirrored := mirror.inside names next fixture.inner there.found
  rw [show origin.get? (base ++ names) = some (.file content) from fixture.stands.found] at mirrored
  cases mirrored
  exact ⟨names, content, fixture, there⟩

variable (levelStore : Tree.Level store.names) {included : List String} {ignored : String → Bool}
  {found : List String} {world last : World}
  (fixtures : ∀ relative ∈ found, ∃ names content, IsFixture origin base relative names content)
include levelStore fixtures

variable (included ignored) in
/-- Whatever becomes of copying what was found, the mirror stays one. -/
theorem mirrors_copyFound (mirror : Mirrors origin base store.names world.tree) :
    Mirrors origin base store.names
      ((Snapshot.copyFound (.ofNames base) store included ignored found).outcome world).2.tree := by
  induction found generalizing world with
  | nil => exact mirror
  | cons relative rest ih =>
    obtain ⟨⟨names, content, fixture⟩, others⟩ := List.forall_mem_cons.1 fixtures
    rw [Snapshot.copyFound, Run.outcome_bind, Run.outcome_look]
    cases includedPath world.tree included (.ofNames base / Path.ofString relative) with
    | error fault => exact mirror
    | ok shown =>
      simp only [Except.mapError]
      split
      · rw [fixture.path_eq, fixture.told, Run.outcome_bind]
        have next := mirrors_copyInto plain apart levelStore mirror fixture
        split
        · rename_i middle copied
          rw [copied] at next
          simp only [bind_pure_comp, Run.outcome_map]
          exact ih others next
        · rename_i fault middle copied
          rw [copied] at next
          exact next
      · exact ih others mirror

/-- If what was found is copied, the mirror holds the copies of all files that it is to hold. -/
theorem copied_of_copyFound {copied : List String}
    (mirror : Mirrors origin base store.names world.tree)
    (ran : (Snapshot.copyFound (.ofNames base) store included ignored found).outcome world =
      (.ok copied, last)) :
    (∀ relative ∈ copied, IsCopied origin base store last.tree relative) ∧
      ∀ relative ∈ found, Snapshot.TakesPart origin (.ofNames base) included ignored relative →
        relative ∈ copied := by
  induction found generalizing world copied with
  | nil =>
    cases ran
    simp
  | cons relative rest ih =>
    obtain ⟨⟨names, content, fixture⟩, others⟩ := List.forall_mem_cons.1 fixtures
    rcases Snapshot.outcome_copyFound_cons_eq_ok ran with
      ⟨-, middle, more, rfl, first, later⟩ | ⟨passed, later⟩
    · rw [fixture.path_eq, fixture.told] at first
      obtain ⟨next, stands⟩ := stands_copyInto plain apart levelStore mirror fixture first
      obtain ⟨copies, complete⟩ := ih others next later
      have whole : Mirrors origin base store.names last.tree := by
        have kept := mirrors_copyFound plain apart levelStore included ignored others next
        rwa [later] at kept
      have here : IsCopied origin base store middle.tree relative :=
        ⟨names, content, fixture, stands⟩
      have copy := here.extend (Snapshot.extends_copyFound later).1 whole
      refine ⟨List.forall_mem_cons.2 ⟨copy, copies⟩, fun other member covered => ?_⟩
      rcases List.mem_cons.1 member with rfl | member
      · exact List.mem_cons_self
      · exact List.mem_cons_of_mem _ (complete other member covered)
    · obtain ⟨copies, complete⟩ := ih others mirror later
      refine ⟨copies, fun other member covered => ?_⟩
      rcases List.mem_cons.1 member with rfl | member
      · exact absurd ((fixture.takesPart_iff (mirror.unlinked plain.toUnlinked)
          (mirror.stands apart fixture.stands)).2
            ((fixture.takesPart_iff plain.toUnlinked fixture.stands).1 covered)) passed
      · exact complete other member covered

end Copies

/-! ## Making a snapshot of a directory -/

/-- What a search down finds in a directory are its files. -/
theorem isFixture_of_search {tree : Tree} {base : Place} {pattern relative : String}
    {found : List String} (plain : tree.Plain) (levelBase : Tree.Level base)
    (down : Tree.GoesDown pattern)
    (searched : tree.search (.ofNames base) pattern = .ok found) (member : relative ∈ found) :
    ∃ names content, IsFixture tree base relative names content := by
  obtain ⟨names, rfl, inner, proper, isFile⟩ :=
    Tree.exists_names_of_mem_search plain down searched member
  have level : Tree.Level (base ++ names) :=
    Tree.level_append.2 ⟨levelBase, Tree.level_of_plain proper⟩
  obtain ⟨content, read⟩ := Tree.isFile_eq_true_iff.1 isFile
  exact ⟨names, content, Path.ofString_toString fun name member => (proper name member).proper,
    inner, level, (Tree.content_eq_ok_iff_stands plain.toUnlinked level).1 read⟩

/-- A world in which a suite keeps to its fixtures' directory, and the run's own files do not go
there. -/
structure KeepsWithin (config : Config) (world : World) (base : Place) : Prop where
  /-- There are no links. -/
  plain : world.tree.Plain
  /-- That is the fixtures' directory. -/
  coded : config.codeDir world.tree = .ok (.ofNames base)
  /-- The pattern does not go up from there. -/
  down : Tree.GoesDown config.files
  /-- The path of the run's own files goes down. -/
  scratch : Tree.Level world.scratch.names
  /-- It leads elsewhere. -/
  outside : ¬ base <+: world.scratch.names

/-- The directory of the fixtures is named without steps up. -/
theorem KeepsWithin.levelBase {config : Config} {world : World} {base : Place}
    (within : KeepsWithin config world base) : Tree.Level base := by
  obtain ⟨names, same, level⟩ := Config.level_codeDir within.plain.toUnlinked within.coded
  cases same
  exact level

/-- A world in which a suite finds files, which are those in the fixtures' directory. -/
structure Finds (config : Config) (world : World) (base : Place) (found : List String) : Prop
    extends KeepsWithin config world base where
  /-- That is what is found. -/
  searched : world.tree.search (.ofNames base) config.files = .ok found

namespace KeepsWithin

variable {config : Config} {world : World} {base : Place} (within : KeepsWithin config world base)
include within

section Fresh

variable {store : Path} {start : World}
  (fresh : Snapshot.makeScratch.outcome world = (.ok store, start))
include fresh

/-- The path of a new directory of the run's own goes down. -/
theorem level_fresh : Tree.Level store.names := by
  obtain ⟨rfl, -⟩ := Snapshot.outcome_makeScratch_eq_ok.1 fresh
  refine Tree.level_concat.2 ⟨within.scratch, ?_⟩
  simp [String.ext_iff]

omit within in
/-- It is not the root. -/
theorem inner_fresh : store.names ≠ [] := by
  obtain ⟨rfl, -⟩ := Snapshot.outcome_makeScratch_eq_ok.1 fresh
  simp [Snapshot.nextScratch, Path.names_join]

/-- The directory is made where nothing stands. -/
theorem stands_fresh :
    world.tree.Stands store none ∧ start.tree = world.tree.set store.names .directory := by
  have level := within.level_fresh fresh
  obtain ⟨-, tree, made, rfl⟩ := Snapshot.outcome_makeScratch_eq_ok.1 fresh
  exact (Tree.makeDirectory_eq_ok_iff_stands within.plain.toUnlinked level).1 made

/-- It mirrors the fixtures' directory. -/
theorem mirrors_fresh : Mirrors world.tree base store.names start.tree := by
  obtain ⟨stands, same⟩ := within.stands_fresh fresh
  have inner := inner_fresh fresh
  rw [same]
  constructor
  case enterable => exact (stands.set_self .directory inner).enterable
  case outside =>
    intro place under
    rw [Tree.get?_set world.tree _ place _ inner, if_neg]
    rintro rfl
    exact under (List.prefix_refl _)
  case inside =>
    intro names node further found
    rw [Tree.get?_set world.tree _ _ _ inner, if_neg (by simpa using further),
      within.plain.get?_below stands.found] at found
    cases found

variable (free : ¬ store.names <+: base)
include free

/-- It is no part of the fixtures' directory. -/
theorem apart_fresh : Apart base store.names := by
  refine ⟨fun under => ?_, free⟩
  obtain ⟨rfl, -⟩ := Snapshot.outcome_makeScratch_eq_ok.1 fresh
  rcases List.prefix_concat_iff.1 under with whole | above
  · exact free (whole ▸ List.prefix_refl base)
  · exact within.outside above

/-- The same is found as before. -/
theorem search_fresh : start.tree.search (.ofNames base) config.files =
    world.tree.search (.ofNames base) config.files := by
  have agree : Tree.AgreeBelow base world.tree start.tree := by
    rw [(within.stands_fresh fresh).2]
    exact .set (within.apart_fresh fresh free)
  exact (Tree.search_congr within.plain within.levelBase agree within.down).symm

end Fresh

end KeepsWithin

namespace Finds

variable {config : Config} {world : World} {base : Place} {found : List String}
  (finds : Finds config world base found)
include finds

/-- What is found are files of the directory. -/
theorem fixtures :
    ∀ relative ∈ found, ∃ names content, IsFixture world.tree base relative names content :=
  fun _ member => isFixture_of_search finds.plain finds.levelBase finds.down finds.searched member

section Fresh

variable {store : Path} {start : World}
  (fresh : Snapshot.makeScratch.outcome world = (.ok store, start))
include fresh

/-- The fixtures' directory is not in the new one if anything is found. -/
theorem free_fresh {relative : String} (member : relative ∈ found) : ¬ store.names <+: base := by
  obtain ⟨names, content, fixture⟩ := finds.fixtures relative member
  intro under
  have above := under.trans (List.prefix_append base names)
  have entered := fixture.above above (Tree.ne_append_of_above under fixture.inner)
  rw [(finds.stands_fresh fresh).1.found] at entered
  cases entered

variable (free : ¬ store.names <+: base)
include free

/-- The same files are found as before. -/
theorem outcome_copyAll {included : List String} {ignored : String → Bool} :
    (Snapshot.copyAll config (.ofNames base) store included ignored).outcome start =
      (Snapshot.copyFound (.ofNames base) store included ignored found).outcome start := by
  rw [Snapshot.copyAll, Run.outcome_bind_of_ok (Run.outcome_get _),
    finds.search_fresh fresh free, finds.searched,
    Run.outcome_bind_of_ok (Run.outcome_ofExcept _ _ _)]

/-- Whatever becomes of the copies, they mirror the fixtures. -/
theorem mirrors_copyAll (included : List String) (ignored : String → Bool) :
    Mirrors world.tree base store.names
      ((Snapshot.copyAll config (.ofNames base) store included ignored).outcome start).2.tree := by
  rw [finds.outcome_copyAll fresh free]
  exact mirrors_copyFound finds.plain (finds.apart_fresh fresh free) (finds.level_fresh fresh)
    included ignored finds.fixtures (finds.mirrors_fresh fresh)

end Fresh

/-- Giving up changes nothing but the directory of the copies. -/
theorem outside_giveUp {store : Path} {now : World} (levelStore : Tree.Level store.names)
    (mirror : Mirrors world.tree base store.names now.tree) (fault : RunFault) :
    ∀ place, ¬ store.names <+: place →
      ((Snapshot.giveUp (.scratch store) fault).outcome now).2.tree.get? place =
        world.tree.get? place := by
  intro place apart
  unfold Snapshot.giveUp
  split
  · rw [Run.outcome_bind_of_ok (Run.outcome_modify _ _), Run.outcome_throw]
    cases discarded : now.tree.discardAll store with
    | error fault => exact mirror.outside place apart
    | ok after =>
      have unlinked := mirror.unlinked finds.plain.toUnlinked
      exact (Tree.get?_discardAll unlinked levelStore discarded apart).trans
        (mirror.outside place apart)
  · exact mirror.outside place apart

/-- Whatever becomes of making a snapshot, what stands in the fixtures' directory and on the way to
it stays as it is. -/
theorem unchanged_take {readRules : IgnoreReader} {relative : String} (member : relative ∈ found)
    (included : List String) {place : Place} {names : List String} (under : place <+: base ++ names) :
    ((Snapshot.take readRules config included none).outcome world).2.tree.get? place =
      world.tree.get? place := by
  rw [Snapshot.take_eq, Run.outcome_bind, Run.outcome_look, finds.coded]
  simp only [Except.mapError]
  rw [Run.outcome_bind_of_ok (Run.outcome_get _), Run.outcome_bind, Run.outcome_ofExcept]
  cases Snapshot.ignoredPaths readRules world.tree (.ofNames base) with
  | error fault => rfl
  | ok ignored =>
    simp only [Except.mapError]
    rw [Run.outcome_bind, Snapshot.choosePlace, Run.outcome_map]
    rcases fresh : Snapshot.makeScratch.outcome world with ⟨fault | store, start⟩
    · rw [Snapshot.outcome_makeScratch] at fresh
      split at fresh
      · cases fresh
        rfl
      · cases fresh
    · have free := finds.free_fresh fresh member
      have outside := (finds.apart_fresh fresh free).not_below_of_above under
      have mirror := finds.mirrors_copyAll fresh free included ignored
      simp only [Except.map, bind_pure_comp, Run.outcome_map]
      rw [Run.outcome_tryCatch, CopyPlace.directory]
      split
      · rename_i copied last ran
        rw [ran] at mirror
        exact mirror.outside place outside
      · rename_i fault later ran
        rw [ran] at mirror
        exact finds.outside_giveUp (finds.level_fresh fresh) mirror fault place outside

end Finds

/-- A snapshot of what was found, whose copies are in a directory of the run's own. -/
structure Taken (readRules : IgnoreReader) (world : World) (base : Place) (store : Path)
    (included found : List String) (snapshot : Snapshot) (last : World) : Prop where
  /-- It is one of the fixtures' directory. -/
  codeDir : snapshot.codeDir = .ofNames base
  /-- There the copies are. -/
  place : snapshot.place = .scratch store
  /-- The fixtures have not been put back. -/
  kept : snapshot.restored = false
  /-- The directory is a new one. -/
  fresh : store = Snapshot.nextScratch world
  /-- Its path goes down. -/
  level : Tree.Level store.names
  /-- The copies are not among the fixtures. -/
  apart : Apart base store.names
  /-- They mirror the fixtures. -/
  mirror : Mirrors world.tree base store.names last.tree
  /-- Their directory stands. -/
  housed : last.tree.Stands store (some .directory)
  /-- Every copied file stands there. -/
  copied : ∀ relative ∈ snapshot.copied, IsCopied world.tree base store last.tree relative
  /-- Every file that the snapshot is to hold was copied. -/
  complete : ∃ ignored, Snapshot.ignoredPaths readRules world.tree (.ofNames base) = .ok ignored ∧
    ∀ relative ∈ found, Snapshot.TakesPart world.tree (.ofNames base) included ignored relative →
      relative ∈ snapshot.copied
  /-- The run makes its files where it did. -/
  scratch : last.scratch = world.scratch
  /-- One name was made up for the directory. -/
  serial : last.serial = world.serial + 1

/-- A snapshot that is made holds what it is to hold. -/
theorem Finds.taken {readRules : IgnoreReader} {config : Config} {world last : World}
    {base : Place} {found : List String}
    (finds : Finds config world base found) {included : List String} {snapshot : Snapshot}
    (free : ∀ store start, Snapshot.makeScratch.outcome world = (.ok store, start) →
      ¬ store.names <+: base)
    (ran : (Snapshot.take readRules config included none).outcome world = (.ok snapshot, last)) :
    ∃ store, Taken readRules world base store included found snapshot last := by
  obtain ⟨ignored, start, kept, coded, ruled, chosen, copied⟩ := Snapshot.outcome_take_eq_ok.1 ran
  rw [finds.coded] at coded
  have codeDir : snapshot.codeDir = .ofNames base := (Except.ok.inj coded).symm
  obtain ⟨_, same, -⟩ | ⟨store, -, place, fresh⟩ := Snapshot.outcome_choosePlace_eq_ok.1 chosen
  · cases same
  have free := free store start fresh
  have apart := finds.apart_fresh fresh free
  rw [codeDir] at ruled
  rw [codeDir, place, CopyPlace.directory] at copied
  have mirror := finds.mirrors_copyAll fresh free included ignored
  rw [copied] at mirror
  rw [finds.outcome_copyAll fresh free] at copied
  obtain ⟨copies, complete⟩ := copied_of_copyFound finds.plain apart (finds.level_fresh fresh)
    finds.fixtures (finds.mirrors_fresh fresh) copied
  obtain ⟨here, tree, -, same⟩ := Snapshot.outcome_makeScratch_eq_ok.1 fresh
  have steady : last.scratch = world.scratch ∧ last.serial = world.serial + 1 := by
    have keeps : Run.Keeps (Snapshot.copyFound (.ofNames base) store included ignored found)
        fun now => now.scratch = world.scratch ∧ now.serial = world.serial + 1 :=
      Snapshot.keeps_copyFound found fun _ _ same => same
    have after := keeps start (by rw [same]; exact ⟨rfl, rfl⟩)
    rwa [copied] at after
  have housed : last.tree.Stands store (some .directory) :=
    ⟨(finds.stands_fresh fresh).1.fits, mirror.enterable.dropLast,
      mirror.enterable store.names (List.prefix_refl _)⟩
  exact ⟨store, codeDir, place, kept, here, finds.level_fresh fresh, apart, mirror, housed, copies,
    ⟨ignored, ruled, complete⟩, steady.1, steady.2⟩

/-- If a snapshot is made, the search has found something or nothing. -/
theorem KeepsWithin.exists_finds {readRules : IgnoreReader} {config : Config}
    {world last : World} {base : Place} (within : KeepsWithin config world base)
    {included : List String} {snapshot : Snapshot}
    (free : ∀ store start, Snapshot.makeScratch.outcome world = (.ok store, start) →
      ¬ store.names <+: base)
    (ran : (Snapshot.take readRules config included none).outcome world = (.ok snapshot, last)) :
    ∃ found, Finds config world base found := by
  obtain ⟨ignored, start, -, coded, -, chosen, copied⟩ := Snapshot.outcome_take_eq_ok.1 ran
  rw [within.coded] at coded
  obtain ⟨_, same, -⟩ | ⟨store, -, -, fresh⟩ := Snapshot.outcome_choosePlace_eq_ok.1 chosen
  · cases same
  rw [← Except.ok.inj coded, Snapshot.copyAll, Run.outcome_bind_of_ok (Run.outcome_get _),
    within.search_fresh fresh (free store start fresh)] at copied
  obtain ⟨found, _, searching, -⟩ := Run.outcome_bind_eq_ok.1 copied
  obtain ⟨searched, -⟩ := Run.outcome_ofExcept_eq_ok.1 searching
  exact ⟨found, within, searched⟩

end LintBench
