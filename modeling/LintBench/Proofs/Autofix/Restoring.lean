import LintBench.Proofs.Autofix.Mirroring
import LintBench.Proofs.Autofix.Starting

/-!
# Putting fixtures back

A script that changes fixtures in place may write and remove files and directories
of their directory. Whatever becomes of it, the fixtures that the snapshot holds are
as they were in the end, and so are the directories on the way to them. The copies
are gone then, and all else is as the script leaves it.
-/

namespace LintBench

open Text (Bytes)

namespace Tree

/-- Whether nothing but a file stands at a place. -/
def Writable (tree : Tree) (place : Place) : Prop :=
  tree.get? place = none ∨ ∃ content, tree.get? place = some (.file content)

/-- Whether trees differ only by files of a directory that were written or removed. -/
def DifferByFiles (base : Place) (before after : Tree) : Prop :=
  ∀ place, after.get? place = before.get? place ∨
    base <+: place ∧ before.Writable place ∧ after.Writable place

/-- Whether trees differ only by files and directories of a directory. -/
def DifferBelow (base : Place) (before after : Tree) : Prop :=
  ∀ place, after.get? place = before.get? place ∨
    base <+: place ∧ ∀ target, after.get? place ≠ some (.link target)

/-- Whether a file can be put at a place: no file stands above it, and no directory there. -/
structure Clear (tree : Tree) (place : Place) : Prop where
  /-- Directories are above, or nothing. -/
  above : ∀ front, front <+: place → front ≠ place →
    tree.get? front = none ∨ tree.get? front = some .directory
  /-- A file is there, or nothing. -/
  here : tree.Writable place

/-- Nothing can be put at a place while something else is in its way. -/
theorem Clear.not_file {tree : Tree} {place front : Place} (clear : tree.Clear place)
    (above : front <+: place) (further : front ≠ place) (content : Bytes) :
    tree.get? front ≠ some (.file content) := by
  intro found
  rcases clear.above front above further with absent | entered
  · simp [found] at absent
  · simp [found] at entered

/-- A directory is not written over. -/
theorem not_writable_of_directory {tree : Tree} {place : Place}
    (found : tree.get? place = some .directory) : ¬ tree.Writable place := by
  rintro (absent | ⟨content, file⟩)
  · rw [found] at absent
    cases absent
  · rw [found] at file
    cases file

/-- Erasing a place leaves nothing at another one, or what stood there. -/
theorem get?_erase_or (tree : Tree) (place asked : Place) :
    (tree.erase place).get? asked = none ∨ (tree.erase place).get? asked = tree.get? asked := by
  by_cases root : asked = []
  · simp [root]
  · by_cases under : place <+: asked
    · exact .inl (get?_erase_of_below tree root under)
    · exact .inr (get?_erase_of_not_below tree under)

/-- Erasing a place does not get in the way of a file. -/
theorem Clear.erase {tree : Tree} {place : Place} (clear : tree.Clear place) (other : Place) :
    (tree.erase other).Clear place := by
  constructor
  case above =>
    intro front above further
    rcases tree.get?_erase_or other front with gone | same
    · exact .inl gone
    · rw [same]
      exact clear.above front above further
  case here =>
    rcases tree.get?_erase_or other place with gone | same
    · exact .inl gone
    · rw [Writable, same]
      exact clear.here

/-- A tree that differs only by written and removed files has room for a file that stood. -/
theorem Stands.clear_of_differByFiles {before after : Tree} {base place : Place} {content : Bytes}
    (stands : before.Stands (.ofNames place) (some (.file content)))
    (differ : DifferByFiles base before after) : after.Clear place := by
  constructor
  case above =>
    intro front above further
    have entered := (stands.directory_above above further).found
    rcases differ front with same | ⟨-, writable, -⟩
    · exact .inr (same.trans entered)
    · exact absurd writable (not_writable_of_directory entered)
  case here =>
    rcases differ place with same | ⟨-, -, writable⟩
    · exact .inr ⟨content, same.trans stands.found⟩
    · exact writable

end Tree

/-- Whether a script, however it is started, only writes and removes files of a directory. -/
def Interpreter.ChangesFilesOf (interpret : Interpreter) (base : Place) : Prop :=
  ∀ invocation world, world.tree.Unlinked →
    Tree.DifferByFiles base world.tree ((interpret invocation).outcome world).2.tree

/-- Whether a script that finds files in some places, however it is started, only writes and removes
files and directories of a directory, and leaves room for those files: no directory comes to stand
in their places, and no file above them. -/
def Interpreter.ChangesBelow (interpret : Interpreter) (base : Place) (places : List Place) : Prop :=
  ∀ invocation world, world.tree.Unlinked →
    (∀ place ∈ places, ∃ content, world.tree.Stands (.ofNames place) (some (.file content))) →
    Tree.DifferBelow base world.tree ((interpret invocation).outcome world).2.tree ∧
      ∀ place ∈ places, ((interpret invocation).outcome world).2.tree.Clear place

/-- Writing and removing files leaves room for the files that stood. -/
theorem Interpreter.ChangesFilesOf.changesBelow {interpret : Interpreter} {base : Place}
    (careful : interpret.ChangesFilesOf base) (places : List Place) :
    interpret.ChangesBelow base places := by
  intro invocation world unlinked standing
  have differ := careful invocation world unlinked
  constructor
  · intro place
    rcases differ place with same | ⟨under, -, absent | ⟨content, file⟩⟩
    · exact .inl same
    · exact .inr ⟨under, by simp [absent]⟩
    · exact .inr ⟨under, by simp [file]⟩
  · intro place member
    obtain ⟨content, stands⟩ := standing place member
    exact stands.clear_of_differByFiles differ

/-- The places of the files that a snapshot holds. -/
def Snapshot.places (snapshot : Snapshot) : List Place :=
  snapshot.copied.map fun relative => (snapshot.codeDir / Path.ofString relative).names

/-! ## What stands before and after the script -/

/-- A tree in which the copied files stand, and so do their copies. -/
structure Untouched (origin : Tree) (base : Place) (store : Path) (copied : List String)
    (tree : Tree) : Prop where
  /-- There are no links. -/
  unlinked : tree.Unlinked
  /-- The directory of the copies stands. -/
  housed : tree.Stands store (some .directory)
  /-- The copies stand. -/
  copies : ∀ relative ∈ copied, ∀ names content, IsFixture origin base relative names content →
    tree.Stands (store / { names }) (some (.file content))
  /-- The files stand. -/
  files : ∀ relative ∈ copied, ∀ names content, IsFixture origin base relative names content →
    tree.Stands (.ofNames (base ++ names)) (some (.file content))

/-- A tree in which the copies stand and nothing is in the way of putting the files back. -/
structure Recoverable (origin : Tree) (base : Place) (store : Path) (copied : List String)
    (tree : Tree) : Prop where
  /-- There are no links. -/
  unlinked : tree.Unlinked
  /-- The directory of the copies stands. -/
  housed : tree.Stands store (some .directory)
  /-- The copies stand. -/
  copies : ∀ relative ∈ copied, ∀ names content, IsFixture origin base relative names content →
    tree.Stands (store / { names }) (some (.file content))
  /-- Nothing is in the way of the files. -/
  clear : ∀ relative ∈ copied, ∀ names content, IsFixture origin base relative names content →
    tree.Clear (base ++ names)

section Steps

variable {origin tree after : Tree} {base : Place} {store : Path} {copied : List String}

namespace Untouched

variable (untouched : Untouched origin base store copied tree)
include untouched

/-- Nothing is touched by setting a node elsewhere, where no directory stands. -/
theorem set {place : Place} {node : Node} (plain : ∀ target, node ≠ .link target)
    (free : tree.get? place ≠ some .directory)
    (notCopy : ∀ names, place ≠ store.names ++ names)
    (notFile : ∀ names, names ≠ [] → place ≠ base ++ names) :
    Untouched origin base store copied (tree.set place node) where
  unlinked := untouched.unlinked.set plain
  housed := untouched.housed.set (by simpa using notCopy []) free
  copies relative member names content fixture :=
    (untouched.copies relative member names content fixture).set (notCopy names) free
  files relative member names content fixture :=
    (untouched.files relative member names content fixture).set
      (notFile names fixture.inner) free

/-- Making directories touches nothing. -/
theorem makeDirectories {path : Path} (made : tree.makeDirectories path = .ok after) :
    Untouched origin base store copied after where
  unlinked := untouched.unlinked.makeDirectories made
  housed := untouched.housed.makeDirectories made
  copies relative member names content fixture :=
    (untouched.copies relative member names content fixture).makeDirectories made
  files relative member names content fixture :=
    (untouched.files relative member names content fixture).makeDirectories made

/-- After files and directories of the directory were written and removed, the copies still stand,
and the files can be put back if there is room for them. -/
theorem recoverable_of_differ (apart : Apart base store.names)
    (differ : Tree.DifferBelow base tree after)
    (clear : ∀ relative ∈ copied, ∀ names content, IsFixture origin base relative names content →
      after.Clear (base ++ names)) :
    Recoverable origin base store copied after where
  unlinked place target found := by
    rcases differ place with same | ⟨-, noLink⟩
    · exact untouched.unlinked place target (same ▸ found)
    · exact noLink target found
  housed := untouched.housed.congr fun front above =>
    (differ front).resolve_right fun ⟨under, _⟩ => apart.below (under.trans above)
  copies relative member names content fixture :=
    (untouched.copies relative member names content fixture).congr fun front above =>
      (differ front).resolve_right fun ⟨under, _⟩ => apart.symm.not_below_of_above above under
  clear := clear

/-- Nothing is in the way of files that stand. -/
theorem recoverable (apart : Apart base store.names) :
    Recoverable origin base store copied tree := by
  refine untouched.recoverable_of_differ apart (fun _ => .inl rfl) fun relative member names content
    fixture => ?_
  have same : Tree.DifferByFiles base tree tree := fun _ => .inl rfl
  exact (untouched.files relative member names content fixture).clear_of_differByFiles same

end Untouched

/-- Erasing what is no copy gets in no way. -/
theorem Recoverable.erase (recoverable : Recoverable origin base store copied tree) {place : Place}
    (apart : ∀ names, ¬ place <+: store.names ++ names) :
    Recoverable origin base store copied (tree.erase place) where
  unlinked := recoverable.unlinked.erase
  housed := recoverable.housed.erase (by simpa using apart [])
  copies relative member names content fixture :=
    (recoverable.copies relative member names content fixture).erase (apart names)
  clear relative member names content fixture :=
    (recoverable.clear relative member names content fixture).erase place

end Steps

/-! ## Whatever becomes of the script -/

/-- Whether the path of a file of the run's own is neither in the fixtures' directory nor on the way
to the copies. -/
structure IsOwn (base : Place) (store file : Path) : Prop where
  /-- It goes down. -/
  level : Tree.Level file.names
  /-- It does not lead to the copies. -/
  notCopy : ∀ names, ¬ file.names <+: store.names ++ names
  /-- It does not lead to a fixture. -/
  notFile : ∀ names, names ≠ [] → file.names ≠ base ++ names

/-- The file of a script is one of the run's own. -/
theorem isOwn_script {base : Place} {store scratch : Path} {later : Nat}
    (level : Tree.Level scratch.names) (outside : ¬ base <+: scratch.names)
    (here : store = scratch / { names := ["backup-" ++ toString later] }) (serial : Nat) :
    IsOwn base store (scratch / { names := ["script-" ++ toString serial] }) := by
  subst here
  constructor
  case level =>
    refine Tree.level_concat.2 ⟨level, ?_⟩
    simp [String.ext_iff]
  case notCopy =>
    intro names above
    rw [Path.names_join, Path.names_join, List.append_assoc, List.prefix_append_right_inj,
      List.singleton_append, List.cons_prefix_cons] at above
    exact absurd above.1 (by simp [String.ext_iff])
  case notFile =>
    intro names inner same
    have under : base <+: scratch.names ++ ["script-" ++ toString serial] :=
      ⟨names, same.symm⟩
    rcases List.prefix_concat_iff.1 under with whole | above
    · rw [Path.names_join, ← whole] at same
      exact inner (List.self_eq_append_right.1 same)
    · exact outside above

section Script

variable {origin : Tree} {base : Place} {store file : Path} {copied : List String}

/-- Storing the text of a script touches nothing. -/
theorem Untouched.storeFile {tree after : Tree} {content : Bytes}
    (untouched : Untouched origin base store copied tree) (own : IsOwn base store file)
    (stored : tree.store file content = .ok after) : Untouched origin base store copied after := by
  obtain ⟨node, stands, free, rfl⟩ :=
    (Tree.store_eq_ok_iff_stands untouched.unlinked own.level).1 stored
  refine untouched.set (by simp) (stands.found ▸ free) (fun names same => ?_) own.notFile
  exact own.notCopy names (same ▸ List.prefix_refl _)

/-- Whether a tree is made ready touches nothing. -/
theorem Untouched.ready {config : Config} {given : Option Path} {tree ready : Tree}
    (untouched : Untouched origin base store copied tree)
    (made : Run.IsReady config given tree ready) : Untouched origin base store copied ready := by
  rcases made with rfl | made
  · exact untouched
  · exact untouched.makeDirectories made

variable {interpret : Interpreter} {config : Config} {given : Option Path} {snapshot : Snapshot}
  {world begun : World} {invocation : Invocation} (apart : Apart base store.names)
  (codeDir : snapshot.codeDir = .ofNames base)
  (fixtures : ∀ relative ∈ snapshot.copied,
    ∃ names content, IsFixture origin base relative names content)
  (changes : interpret.ChangesBelow base snapshot.places)

include codeDir in
/-- The place of a file that a snapshot holds. -/
theorem IsFixture.mem_places {relative : String} {names : List String} {content : Bytes}
    (fixture : IsFixture origin base relative names content) (member : relative ∈ snapshot.copied) :
    base ++ names ∈ snapshot.places := by
  refine List.mem_map.2 ⟨relative, member, ?_⟩
  rw [codeDir, fixture.path_eq]
  rfl

include codeDir fixtures in
/-- In the places of the files that a snapshot holds stand those files. -/
theorem exists_of_mem_places {place : Place} (inside : place ∈ snapshot.places) :
    ∃ relative ∈ snapshot.copied, ∃ names content,
      IsFixture origin base relative names content ∧ place = base ++ names := by
  obtain ⟨relative, member, rfl⟩ := List.mem_map.1 inside
  obtain ⟨names, content, fixture⟩ := fixtures relative member
  refine ⟨relative, member, names, content, fixture, ?_⟩
  rw [codeDir, fixture.path_eq]
  rfl

include apart codeDir fixtures changes

variable (invocation) in
/-- What a script leaves where nothing was touched. -/
theorem Untouched.after_script (untouched : Untouched origin base store snapshot.copied begun.tree) :
    Tree.DifferBelow base begun.tree ((interpret invocation).outcome begun).2.tree ∧
      Recoverable origin base store snapshot.copied
        ((interpret invocation).outcome begun).2.tree := by
  have standing (place : Place) (inside : place ∈ snapshot.places) :
      ∃ content, begun.tree.Stands (.ofNames place) (some (.file content)) := by
    obtain ⟨relative, member, names, content, fixture, rfl⟩ :=
      exists_of_mem_places codeDir fixtures inside
    exact ⟨content, untouched.files relative member names content fixture⟩
  obtain ⟨differ, clear⟩ := changes invocation begun untouched.unlinked standing
  refine ⟨differ, untouched.recoverable_of_differ apart differ ?_⟩
  exact fun relative member names content fixture => clear _ (fixture.mem_places codeDir member)

variable (own : ∀ serial : Nat,
    IsOwn base store (world.scratch / { names := ["script-" ++ toString serial] }))
  (untouched : Untouched origin base store snapshot.copied world.tree)
include own untouched

variable (config given) in
/-- Whatever becomes of the changes, the fixtures can be put back. -/
theorem recoverable_tryChanges : Recoverable origin base store snapshot.copied
    ((Run.tryChanges interpret config given snapshot).outcome world).2.tree := by
  rw [Run.tree_tryChanges]
  rcases ran : (Run.prepared config given snapshot).outcome world with
    ⟨fault | ⟨identical, file, invocation⟩, begun⟩
  · obtain ⟨ready, made, same⟩ := Run.tree_prepared ran
    simp only at same ⊢
    rw [same]
    exact (untouched.ready made).recoverable apart
  · obtain ⟨ready, made, rfl, stored⟩ := Run.tree_prepared ran
    have own := own world.serial
    obtain ⟨-, recoverable⟩ := Untouched.after_script invocation apart codeDir fixtures changes
      ((untouched.ready made).storeFile own stored)
    simp only
    cases discarded : Tree.discard _ _ with
    | error fault => exact recoverable
    | ok after =>
      obtain ⟨-, rfl⟩ := (Tree.discard_eq_ok_iff_stands recoverable.unlinked own.level).1
        discarded
      exact recoverable.erase own.notCopy

end Script

/-! ## Putting files back -/

section Back

variable {origin : Tree} {base : Place} {store : Path} {copied : List String}

/-- Whether a file and the directories on the way to it are as they were. -/
def IsRestored (origin : Tree) (base : Place) (tree : Tree) (relative : String) : Prop :=
  ∀ names content, IsFixture origin base relative names content →
    ∀ front, front <+: base ++ names → tree.get? front = origin.get? front

/-- A fixture that stands again has its content. -/
theorem IsFixture.content_of_restored {tree : Tree} {relative : String} {names : List String}
    {content : Bytes} (unlinked : origin.Unlinked)
    (fixture : IsFixture origin base relative names content)
    (restored : IsRestored origin base tree relative) :
    origin.content (.ofNames base / Path.ofString relative) = .ok content ∧
      tree.content (.ofNames base / Path.ofString relative) = .ok content := by
  have read := (Tree.content_eq_ok_iff_stands unlinked fixture.level).2 fixture.stands
  rw [fixture.path_eq]
  refine ⟨read, ?_⟩
  rw [← Tree.content_eq_of_same unlinked fixture.level, read]
  exact fun front above => (restored names content fixture front above).symm

/-- Whether a place is on the way to a file of a directory, or its own. -/
def LeadsTo (origin : Tree) (base : Place) (relative : String) (place : Place) : Prop :=
  ∃ names content, IsFixture origin base relative names content ∧ place <+: base ++ names

/-- A tree in which the files that a snapshot holds were put back, and the copies removed. -/
structure PutBack (origin : Tree) (base : Place) (store : Path) (copied : List String)
    (left last : Tree) : Prop where
  /-- The files are as they were. -/
  restored : ∀ relative ∈ copied, IsRestored origin base last relative
  /-- The copies are gone, and so is their directory. -/
  gone : ∀ place, store.names <+: place → last.get? place = none
  /-- All else is as it was left, but for directories on the way to the files. -/
  others : ∀ place, ¬ store.names <+: place →
    (∀ relative ∈ copied, ¬ LeadsTo origin base relative place) → last.get? place = left.get? place

variable (apart : Apart base store.names) (levelStore : Tree.Level store.names)
include apart levelStore

/-- A copied file is put back, and so are the directories on the way to it. All else stays. -/
theorem exists_putBack {world : World} {relative : String} {names : List String} {content : Bytes}
    (recoverable : Recoverable origin base store copied world.tree)
    (member : relative ∈ copied) (fixture : IsFixture origin base relative names content) :
    ∃ last, (Snapshot.copyInto (store / { names }) (.ofNames (base ++ names))).outcome world =
        (.ok (), last) ∧
      ∀ place, last.tree.get? place =
        if place <+: base ++ names then origin.get? place else world.tree.get? place := by
  have copy := recoverable.copies relative member names content fixture
  have clear := recoverable.clear relative member names content fixture
  have inner : base ++ names ≠ [] := by simp [fixture.inner]
  have way {front : Place} : front <+: (base ++ names).dropLast ↔
      front <+: base ++ names ∧ front ≠ base ++ names := Tree.prefix_dropLast_iff inner
  have level : Tree.Level (base ++ names).dropLast :=
    fun name inside => fixture.level name (List.dropLast_subset _ inside)
  obtain ⟨directories, made⟩ := Tree.exists_makeDirectories recoverable.unlinked level
    (fixture.stands.fits.mono (List.dropLast_prefix _))
    fun front under => clear.above front (way.1 under).1 (way.1 under).2
  have opened (place : Place) : directories.get? place =
      if place <+: (base ++ names).dropLast then some .directory else world.tree.get? place :=
    Tree.get?_makeDirectories recoverable.unlinked
      (show Tree.Level (Path.ofNames (base ++ names).dropLast).names from level) made place
  have unlinked := recoverable.unlinked.makeDirectories made
  have there := copy.makeDirectories made
  have before : directories.get? (base ++ names) = world.tree.get? (base ++ names) := by
    rw [opened, if_neg]
    exact fun under => (way.1 under).2 rfl
  have stands : directories.Stands (.ofNames (base ++ names)) (world.tree.get? (base ++ names)) :=
    ⟨fixture.stands.fits, fun front under => (opened front).trans (if_pos under), before⟩
  have free : world.tree.get? (base ++ names) ≠ some .directory :=
    fun found => Tree.not_writable_of_directory found clear.here
  have copied : directories.copy (store / { names }) (.ofNames (base ++ names)) =
      .ok (directories.set (base ++ names) (.file content)) := by
    refine Tree.copy_of_stands unlinked ?_ fixture.level ?_ there stands free
    · exact Tree.level_append.2 ⟨levelStore, (Tree.level_append.1 fixture.level).2⟩
    · exact fun same => apart.symm.not_below names ⟨names, same.symm⟩
  refine ⟨_, Snapshot.outcome_copyInto_eq_ok.2 ⟨directories, _, made, copied, rfl⟩, fun place => ?_⟩
  simp only
  rw [Tree.get?_set directories _ place _ inner, opened]
  by_cases whole : place = base ++ names
  · subst whole
    rw [if_pos rfl, if_pos (List.prefix_refl _)]
    exact fixture.stands.found.symm
  · rw [if_neg (Ne.symm whole)]
    by_cases under : place <+: base ++ names
    · rw [if_pos (way.2 ⟨under, whole⟩), if_pos under, fixture.above under whole]
    · rw [if_neg fun above => under (way.1 above).1, if_neg under]

omit levelStore in
/-- When a file was put back, the others still can be. What is on the way to both is a directory,
then as now. -/
theorem Recoverable.putBack {tree after : Tree} {names : List String} {content : Bytes}
    {relative : String} (recoverable : Recoverable origin base store copied tree)
    (plain : origin.Unlinked) (fixture : IsFixture origin base relative names content)
    (stands : ∀ place, after.get? place =
      if place <+: base ++ names then origin.get? place else tree.get? place) :
    Recoverable origin base store copied after := by
  constructor
  case unlinked =>
    intro place target found
    rw [stands] at found
    split at found
    · exact plain place target found
    · exact recoverable.unlinked place target found
  case housed =>
    refine recoverable.housed.congr fun front above => ?_
    rw [stands]
    split
    · rename_i under
      have short : front ≠ base ++ names := by
        rintro rfl
        exact apart.below ((List.prefix_append base names).trans above)
      rw [fixture.above under short, recoverable.housed.enterable front above]
    · rfl
  case copies =>
    intro other member more bytes others
    have copy := recoverable.copies other member more bytes others
    refine copy.congr fun front above => ?_
    rw [stands]
    split
    · rename_i under
      have inner : store.names ++ more ≠ [] := by simp [others.inner]
      have further : front ≠ store.names ++ more := by
        rintro rfl
        exact apart.not_below names ((List.prefix_append store.names more).trans under)
      have short : front ≠ base ++ names := by
        rintro rfl
        exact apart.symm.not_below more ((List.prefix_append base names).trans above)
      rw [fixture.above under short,
        copy.above front ((Tree.prefix_dropLast_iff inner).2 ⟨above, further⟩)]
    · rfl
  case clear =>
    intro other member more bytes others
    have clear := recoverable.clear other member more bytes others
    constructor
    case above =>
      intro front above further
      rw [stands]
      split
      · exact .inr (others.above above further)
      · exact clear.above front above further
    case here =>
      rw [Tree.Writable, stands]
      split
      · exact .inr ⟨bytes, others.stands.found⟩
      · exact clear.here

omit apart levelStore in
/-- A file that is as it was stays so when another one is put back. -/
theorem IsRestored.putBack {tree after : Tree} {names : List String} {other : String}
    (restored : IsRestored origin base tree other)
    (stands : ∀ place, after.get? place =
      if place <+: base ++ names then origin.get? place else tree.get? place) :
    IsRestored origin base after other := by
  intro more bytes fixture front above
  rw [stands]
  split
  · rfl
  · exact restored more bytes fixture front above

/-- Files are put back one after the other. What is not on the way to one of them stays. -/
theorem exists_putAllBack {world : World} {rows : List String} (plain : origin.Unlinked)
    (within : ∀ relative ∈ rows, relative ∈ copied)
    (fixtures : ∀ relative ∈ copied, ∃ names content, IsFixture origin base relative names content)
    (recoverable : Recoverable origin base store copied world.tree) :
    ∃ last, (rows.forM fun relative => Snapshot.copyInto (store / Path.ofString relative)
          (.ofNames base / Path.ofString relative)).outcome world = (.ok (), last) ∧
      Recoverable origin base store copied last.tree ∧
      (∀ relative, IsRestored origin base world.tree relative →
        IsRestored origin base last.tree relative) ∧
      (∀ relative ∈ rows, IsRestored origin base last.tree relative) ∧
      ∀ place, (∀ relative ∈ rows, ¬ LeadsTo origin base relative place) →
        last.tree.get? place = world.tree.get? place := by
  induction rows generalizing world with
  | nil => exact ⟨world, rfl, recoverable, fun _ restored => restored, by simp, fun _ _ => rfl⟩
  | cons relative rest ih =>
    obtain ⟨member, others⟩ := List.forall_mem_cons.1 within
    obtain ⟨names, content, fixture⟩ := fixtures relative member
    obtain ⟨middle, copied, stands⟩ :=
      exists_putBack apart levelStore recoverable member fixture
    obtain ⟨last, ran, left, stay, restored, frame⟩ :=
      ih others (recoverable.putBack apart plain fixture stands)
    have here : IsRestored origin base middle.tree relative := by
      intro more bytes same front above
      rw [stands, if_pos ((fixture.unique same).1 ▸ above)]
    refine ⟨last, ?_, left, fun other before => stay other (before.putBack stands), ?_, ?_⟩
    · rw [List.forM, fixture.path_eq, fixture.told, Run.outcome_bind_of_ok copied]
      exact ran
    · exact List.forall_mem_cons.2 ⟨stay relative here, restored⟩
    · intro place off
      obtain ⟨first, later⟩ := List.forall_mem_cons.1 off
      rw [frame place later, stands, if_neg fun above => first ⟨names, content, fixture, above⟩]

/-- The files that a snapshot holds are put back, and the copies are removed. -/
theorem exists_restore {world : World} {snapshot : Snapshot} (plain : origin.Unlinked)
    (codeDir : snapshot.codeDir = .ofNames base) (place : snapshot.place = .scratch store)
    (kept : snapshot.restored = false)
    (fixtures : ∀ relative ∈ snapshot.copied,
      ∃ names content, IsFixture origin base relative names content)
    (recoverable : Recoverable origin base store snapshot.copied world.tree) :
    ∃ last, snapshot.restore.outcome world = (.ok (), last) ∧
      PutBack origin base store snapshot.copied world.tree last.tree := by
  obtain ⟨last, ran, left, -, restored, frame⟩ :=
    exists_putAllBack apart levelStore plain (fun _ member => member) fixtures recoverable
  have removed : last.tree.discardAll store = .ok (last.tree.erase store.names) :=
    (Tree.discardAll_eq_ok_iff_stands left.unlinked levelStore).2 ⟨left.housed, rfl⟩
  refine ⟨{ last with tree := last.tree.erase store.names }, ?_, ?_⟩
  · rw [Snapshot.restore, kept, place, codeDir]
    simp only
    rw [Run.outcome_bind_of_ok ran, Run.outcome_change_of_ok removed]
  have outside {place : Place} (off : ¬ store.names <+: place) :
      (last.tree.erase store.names).get? place = last.tree.get? place :=
    Tree.get?_erase_of_not_below _ off
  constructor
  case restored =>
    intro relative member names content fixture front above
    rw [outside (apart.not_below_of_above above)]
    exact restored relative member names content fixture front above
  case gone =>
    intro place under
    have inner : place ≠ [] := by
      rintro rfl
      exact apart.above ((List.prefix_nil.1 under).symm ▸ List.nil_prefix)
    exact Tree.get?_erase_of_below _ inner under
  case others =>
    intro place off elsewhere
    rw [outside off]
    exact frame place elsewhere

end Back

end LintBench
