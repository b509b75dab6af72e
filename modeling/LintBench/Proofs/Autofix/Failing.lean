import LintBench.Host.IgnoreRules
import LintBench.Proofs.Autofix.Copying
import LintBench.Proofs.Files.Computing
import LintBench.Proofs.Files.Confining

/-!
# Snapshots that fail

What was copied when a snapshot fails lies below the directory that was made for the
copies, if the pattern does not go up. The directory is removed again, unless the
pattern cannot be read: then it stays, with nothing in it.
-/

namespace LintBench

open Runs (FailsOnly)

/-- The name of a path that goes on is one of the names that it goes on with. -/
theorem Path.name_join_mem (path : Path) {names : List String} (inner : names ≠ []) :
    (path / ({ names } : Path)).name ∈ names := by
  have last : (path / ({ names } : Path)).name = names.getLast inner := by
    show (path.names ++ names).getLast?.getD "" = _
    rw [List.getLast?_append_of_ne_nil _ inner, List.getLast?_eq_some_getLast inner]
    rfl
  rw [last]
  exact List.getLast_mem inner

namespace Snapshot

variable {origin : Tree} {codeDir directory : Path} {store : Place} {included : List String}
  {ignored : String → Bool} {world last : World}

/-! ## Copying below a directory -/

/-- Whether a text leads to a file, by names that do not go up. -/
def LeadsDown (tree : Tree) (codeDir : Path) (relative : String) : Prop :=
  ∃ names, relative = ({ names } : Path).toString ∧ names ≠ [] ∧
    (∀ name ∈ names, Path.IsPlain name) ∧
    ∃ place, tree.LeadsToFile (codeDir / { names }) place

/-- What leads to a file still leads to it in a tree that grew. -/
theorem LeadsDown.extend {tree after : Tree} {relative : String}
    (leads : LeadsDown tree codeDir relative) (grown : tree.Extends after) :
    LeadsDown after codeDir relative := by
  obtain ⟨names, told, inner, plain, place, here⟩ := leads
  exact ⟨names, told, inner, plain, place, here.extend grown⟩

/-- Whether a step ends with all its changes below a directory, and fails only by the tree. -/
structure Confines {α : Type} (origin : Tree) (directory : Path) (store : Place) (before : Tree)
    (result : Except RunFault α × World) : Prop where
  /-- The changes are below the directory. -/
  confined : Tree.Confined origin directory store result.2.tree
  /-- The tree only grows. -/
  grown : before.Extends result.2.tree
  /-- A fault is one of the tree. -/
  fails : FailsOnly (fun fault => fault.ofTree = true) result.1

/-- A file that is copied to the same names below the directory is confined. -/
theorem confines_copyInto {relative : String}
    (confined : Tree.Confined origin directory store world.tree)
    (leads : LeadsDown world.tree codeDir relative) :
    Confines origin directory store world.tree
      ((copyInto (codeDir / Path.ofString relative)
        (directory / Path.ofString relative)).outcome world) := by
  obtain ⟨names, rfl, inner, plain, place, content, located⟩ := leads
  have fromNoNul := (Tree.locate_eq_ok_iff.1 located).1
  have noNul := Tree.noNul_of_join fromNoNul
  have aboveNoNul : names.dropLast.any Tree.holdsNul = false := by
    rw [List.any_eq_false] at noNul ⊢
    exact fun name member => noNul name (List.dropLast_subset names member)
  have level := Tree.level_of_plain plain
  rw [Path.ofString_toString fun name member => (plain name member).proper, outcome_copyInto,
    Path.parent_join directory inner]
  cases made : world.tree.makeDirectories (directory / ({ names := names.dropLast } : Path)) with
  | error fault =>
    have said := Tree.failsOnly_makeDirectories (confined.noNul_join aboveNoNul) fault made
    exact ⟨confined, .refl _, .error said⟩
  | ok directories =>
    have opened := confined.makeDirectories
      (fun name member => level name (List.dropLast_subset names member)) made
    have grown := Tree.extends_makeDirectories made
    simp only
    cases copied : directories.copy (codeDir / ({ names } : Path))
        (directory / ({ names } : Path)) with
    | error fault =>
      have said := Tree.failsOnly_copy fromNoNul (opened.noNul_join noNul) fault copied
      exact ⟨opened, grown, .error said⟩
    | ok tree =>
      have named := level _ (Path.name_join_mem codeDir inner)
      exact ⟨opened.copy level named copied, grown.trans (Tree.extends_copy copied), .ok ()⟩

/-- A file that is found leads to an included path, or to none. -/
theorem exists_includedPath {relative : String} {tree : Tree} (free : tree.NulFree)
    (leads : LeadsDown tree codeDir relative) :
    ∃ shown, includedPath tree included (codeDir / Path.ofString relative) = .ok shown := by
  obtain ⟨names, rfl, -, plain, place, content, located⟩ := leads
  rw [Path.ofString_toString fun name member => (plain name member).proper]
  obtain ⟨shown, resolved⟩ := Tree.exists_resolveIfThere free located
  rw [includedPath, resolved]
  cases shown <;> exact ⟨_, rfl⟩

/-- Found files that are copied are confined. -/
theorem confines_copyFound {found : List String}
    (confined : Tree.Confined origin directory store world.tree)
    (leads : ∀ relative ∈ found, LeadsDown world.tree codeDir relative) :
    Confines origin directory store world.tree
      ((copyFound codeDir directory included ignored found).outcome world) := by
  induction found generalizing world with
  | nil => exact ⟨confined, .refl _, .ok []⟩
  | cons relative rest ih =>
    obtain ⟨first, others⟩ := List.forall_mem_cons.1 leads
    obtain ⟨shown, picked⟩ := exists_includedPath confined.free first
    rw [copyFound, Run.outcome_look_bind, picked]
    simp only
    split
    · rw [Run.outcome_bind]
      have step := confines_copyInto confined first
      revert step
      rcases (copyInto (codeDir / Path.ofString relative)
        (directory / Path.ofString relative)).outcome world with ⟨fault | done, middle⟩
      · exact fun step => ⟨step.confined, step.grown, .error (step.fails fault rfl)⟩
      · intro step
        have later := ih step.confined fun other member => (others other member).extend step.grown
        simp only [bind_pure_comp, Run.outcome_map]
        exact ⟨later.confined, step.grown.trans later.grown, .map _ later.fails⟩
    · exact ih confined others

/-! ## Making a snapshot in a new directory -/

/-- A name without slashes that starts with no dot can be met. -/
theorem isPlain_of_starts {name : String} {c : Char} (starts : name.toList.head? = some c)
    (noDot : c ≠ '.') (whole : '/' ∉ name.toList) : Path.IsPlain name := by
  have other (text : String) (otherwise : text.toList.head? ≠ some c) : name ≠ text := by
    rintro rfl
    exact otherwise starts
  have dots : some '.' ≠ some c := fun same => noDot (Option.some.inj same).symm
  refine ⟨⟨?_, whole⟩, other ".." dots⟩
  rw [Path.isName, Bool.and_eq_true, decide_eq_true_eq, decide_eq_true_eq]
  exact ⟨other "" (by simp), other "." dots⟩

/-- The name of a directory of the run's own can be met. -/
theorem isPlain_own (serial : Nat) : Path.IsPlain ("backup-" ++ toString serial) := by
  have text : ("backup-" ++ toString serial).toList =
      "backup-".toList ++ (toString serial).toList := String.toList_append
  have digits : ∀ c ∈ (toString serial).toList, c.isDigit = true := by
    rw [Nat.toString_eq_ofList_toDigits, String.toList_ofList]
    exact fun c member => Nat.isDigit_of_mem_toDigits (by decide) (by decide) member
  refine isPlain_of_starts (c := 'b') (by rw [text]; rfl) (by decide) ?_
  rw [text, List.mem_append, not_or]
  exact ⟨by decide, fun slash => absurd (digits '/' slash) (by decide)⟩

/-- Finding the fixtures and copying them to a new directory is confined, or the pattern cannot be
read. -/
theorem copyAll_cases {config : Config} (codeDir : Path) (included : List String)
    (ignored : String → Bool) (world : World)
    (fresh : Tree.NewDirectory origin directory store world.tree)
    (own : ∀ name, directory.names.getLast? = some name → Path.IsPlain name)
    (down : Tree.GoesDown config.files) :
    (∃ unread, SearchPattern.Unreadable config.files unread ∧
        (copyAll config codeDir directory included ignored).outcome world =
          (.error (.search unread), world)) ∨
      Confines origin directory store world.tree
        ((copyAll config codeDir directory included ignored).outcome world) := by
  rw [copyAll, Run.outcome_bind_of_ok (Run.outcome_get _), Run.outcome_bind, Run.outcome_ofExcept]
  cases searched : world.tree.search codeDir config.files with
  | error fault =>
    rcases Tree.search_eq_error searched with unreadable | ⟨other, rfl, ofTree⟩
    · exact .inl ⟨fault, unreadable, rfl⟩
    · exact .inr ⟨fresh.confined, .refl _, .error ofTree⟩
  | ok found =>
    refine .inr (confines_copyFound fresh.confined fun relative member => ?_)
    obtain ⟨names, told, inner, plain, isFile⟩ :=
      Tree.good_of_mem_search (fresh.named own) (fun _ inside => down.isPlain inside) searched member
    exact ⟨names, told, inner, plain, Tree.isFile_eq_true_iff_leadsToFile.1 isFile⟩

/-- The directory of the run's own is removed if the tree did not allow the copies. -/
theorem outcome_giveUp_scratch (directory : Path) (fault : RunFault) (world : World) :
    (giveUp (.scratch directory) fault).outcome world =
      (.error fault, if fault.ofTree then
        { world with tree := (world.tree.discardAll directory).toOption.getD world.tree }
      else world) := by
  unfold giveUp
  cases fault.ofTree <;> rfl

/-- What is left of a step that is confined to a new directory and fails, when the directory is
removed, is the tree as it was. -/
theorem Confines.get?_giveUp {α : Type} {before : Tree} {fault : RunFault}
    (confines : Confines origin directory store before ((.error fault : Except RunFault α), last))
    (absent : ∀ names, origin.get? (store ++ names) = none) (place : Place) :
    ((giveUp (.scratch directory) fault).outcome last).2.tree.get? place = origin.get? place := by
  have removed : last.tree.discardAll directory = .ok (last.tree.erase store) := by
    rw [Tree.discardAll, confines.confined.reached]
  rw [outcome_giveUp_scratch, confines.fails fault rfl, if_pos rfl, removed]
  exact confines.confined.get?_erase absent place

end Snapshot

open Snapshot

/-- A snapshot of the run's own that fails leaves the tree as it was, unless its pattern cannot be
read: then the directory is left that was made for the copies, with nothing in it. -/
theorem failed_snapshot_leaves_nothing_unless_unreadable {config : Config} {included : List String}
    {world last : World} {fault : RunFault} (sound : world.tree.Sound)
    (down : Tree.GoesDown config.files)
    (failed : (take readRules config included none).outcome world = (.error fault, last)) :
    (∃ unread, SearchPattern.Unreadable config.files unread ∧ fault = .search unread ∧
        world.tree.makeDirectory (nextScratch world) = .ok last.tree) ∨
      (∀ unread, SearchPattern.Unreadable config.files unread → fault ≠ .search unread) ∧
        ∀ place, last.tree.get? place = world.tree.get? place := by
  rcases outcome_take_eq_error failed with
    ⟨otherwise, same⟩ | ⟨codeDir, ignored, place, start, later, -, chosen, copying, rfl⟩
  · exact .inr ⟨fun unread _ => otherwise unread, fun place => by rw [same]⟩
  · rcases outcome_choosePlace_eq_ok.1 chosen with ⟨_, ⟨⟩, -⟩ | ⟨directory, -, rfl, scratch⟩
    obtain ⟨rfl, tree, made, rfl⟩ := outcome_makeScratch_eq_ok.1 scratch
    obtain ⟨store, fresh⟩ := sound.exists_newDirectory made
    have own (name : String) (ends : (nextScratch world).names.getLast? = some name) :
        Path.IsPlain name := by
      rw [show (nextScratch world).names = world.scratch.names ++
        ["backup-" ++ toString world.serial] from rfl, List.getLast?_concat] at ends
      cases ends
      exact isPlain_own world.serial
    rcases copyAll_cases codeDir included ignored { world with tree, serial := world.serial + 1 }
        fresh own down with ⟨unread, unreadable, ran⟩ | confines
    · rw [CopyPlace.directory, ran] at copying
      cases copying
      refine .inl ⟨unread, unreadable, rfl, ?_⟩
      rw [outcome_giveUp_scratch, unreadable.ofTree_eq_false]
      exact made
    · rw [CopyPlace.directory] at copying
      rw [copying] at confines
      refine .inr ⟨?_, confines.get?_giveUp fresh.absent⟩
      rintro unread unreadable rfl
      have ofTree : (RunFault.search unread).ofTree = true := confines.fails _ rfl
      rw [unreadable.ofTree_eq_false] at ofTree
      cases ofTree

/-! ## Searches that fail -/

/-- To ask what stands at a path that is too long is a fault. -/
theorem Tree.isPresent_of_tooLong {tree : Tree} {path : Path}
    (long : tree.locate true path = .error .nameTooLong) :
    tree.isPresent path = .error .nameTooLong := by
  rw [Tree.isPresent, Tree.nodeIs, Tree.node, long]
  rfl

namespace OneFixture

/-- A fixture, and no directory of the run's own. -/
def world : World := { tree := { nodes := [(["a.go"], .file [1])] } }

/-- A suite at the root. -/
def suite (files : String) : Config := { root := .ofNames [], codePath := ".", files }

/-- The tree with a directory for the copies. -/
def fresh : Tree := world.tree.set ["backup-0"] .directory

/-- The tree can be a file tree. -/
theorem sound : world.tree.Sound where
  named := by decide
  noNul := by decide
  housed := by decide

/-- The root holds the fixture of each suite. -/
theorem houses (files : String) : Houses world.tree (suite files) [] := by
  obtain ⟨⟨unlinked, level, named, directory⟩, unruled⟩ : Houses world.tree (suite "") [] := by
    decide
  exact ⟨⟨unlinked, level, named, directory⟩, unruled⟩

/-- A search that fails does so when the directory for the copies is there. -/
theorem taken {files : String} {fault : SearchFault}
    (searched : fresh.search (.ofNames []) files = .error fault) :
    (take Host.readRules (suite files) [] none).outcome world =
      (.error (.search fault), ((giveUp (.scratch (.ofNames ["backup-0"])) (.search fault)).outcome
        { world with tree := fresh, serial := 1 }).2) := by
  have chosen : (choosePlace none).outcome world =
      (.ok (.scratch (.ofNames ["backup-0"])), { world with tree := fresh, serial := 1 }) :=
    outcome_choosePlace_of_stands (by decide) (by decide) (by decide)
  refine outcome_take_of_failed (houses files).codeDir_eq ((houses files).ignoredPaths_eq _)
    chosen ?_
  rw [copyAll, Run.outcome_bind_of_ok (Run.outcome_get _)]
  refine Run.outcome_bind_of_error ?_ _
  rw [suite, Run.outcome_ofExcept]
  simp only [searched, Except.mapError]

/-- A name that is too long. -/
def longName : String := String.ofList (List.replicate 256 'a')

/-- The characters of the long name. -/
theorem toList_longName : longName.toList = List.replicate 256 'a' := String.toList_ofList

/-- The long name is one byte longer than a name may be. -/
theorem utf8ByteSize_longName : longName.utf8ByteSize = 256 := by
  have size (count : Nat) : (String.ofList (List.replicate count 'a')).utf8ByteSize = count := by
    induction count with
    | zero => rfl
    | succ count ih =>
      rw [List.replicate_succ, String.ofList_cons, String.utf8ByteSize_append, ih]
      exact Nat.add_comm 1 count
  exact size 256

/-- The long name is one name of a path. -/
theorem isPlain_longName : Path.IsPlain longName := by
  refine isPlain_of_starts (c := 'a') (by rw [toList_longName]; rfl) (by decide) ?_
  rw [toList_longName, List.mem_replicate]
  decide

/-- The long name as a path. -/
theorem ofString_longName : Path.ofString longName = { names := [longName] } := by
  have shown : Path.toString { names := [longName] } = longName := by
    simp [Path.toString, Anchor.text]
  have read : Path.ofString (Path.toString { names := [longName] }) = { names := [longName] } :=
    Path.ofString_toString fun name member => by
      rw [List.mem_singleton.1 member]
      exact isPlain_longName.proper
  rwa [shown] at read

/-- The long name as a pattern. -/
theorem read_longName : SearchPattern.read longName = .ok ⟨[.named longName], false⟩ := by
  have step : SearchStep.read longName = .ok (.named longName) := by
    have noStars : longName ≠ "**" := by
      intro same
      have letters := toList_longName
      rw [same] at letters
      exact absurd letters (by decide)
    have tame : hasDoubleStar (List.replicate 256 'a') = false ∧
        NamePattern.isWild (List.replicate 256 'a') = false := by decide +kernel
    simp only [SearchStep.read, if_neg noStars, toList_longName, tame]
    rfl
  have file : ¬ (List.replicate 256 'a').getLast? = some '/' := by decide +kernel
  simp only [SearchPattern.read, ofString_longName, toList_longName, file, List.mapM_cons, step]
  rfl

/-- The long name leads to a fault. -/
theorem locate_longName : fresh.locate true (.ofNames [] / { names := [longName] }) =
    .error .nameTooLong := by
  have noNul : [longName].any Tree.holdsNul = false := by
    rw [List.any_cons, Tree.holdsNul, toList_longName]
    decide +kernel
  have long : longName.utf8ByteSize > Tree.longestName := by
    rw [utf8ByteSize_longName]
    decide
  obtain ⟨notHere, notUp⟩ :=
    Tree.level_of_plain (List.forall_mem_singleton.2 isPlain_longName) longName List.mem_cons_self
  have walked : fresh.walk true Tree.mostLinks [] [longName] = .error .nameTooLong := by
    rw [Tree.walk, if_neg notHere, if_neg notUp, if_pos long]
  rw [Tree.ofNames_join, Tree.locate,
    show (Path.ofNames ([] ++ [longName])).names = [longName] from rfl, noNul, walked]
  simp

/-- A search for the long name fails. -/
theorem searched_longName : fresh.search (.ofNames []) longName = .error (.file .nameTooLong) := by
  have entered : fresh.isDirectory (.ofNames []) = .ok true :=
    Tree.isDirectory_eq_true_iff.2
      (Tree.node_eq_ok_iff.2 ⟨_, fresh.locate_root true, rfl⟩)
  have rows : fresh.findRows (.ofNames []) ⟨[.named longName], false⟩ = .error .nameTooLong := by
    rw [Tree.findRows, entered]
    simp only [Tree.select_cons, Tree.nextRows, Tree.passes, List.nil_append,
      Tree.isPresent_of_tooLong locate_longName]
    rfl
  have asks : Text.isAllBlank longName = false := by
    rw [Text.isAllBlank, toList_longName]
    decide
  rw [Tree.search_eq, asks, read_longName]
  simp only [bind, Except.bind, rows]
  rfl

/-- A pattern that starts at the root is not read. -/
theorem unreadable : SearchPattern.Unreadable "/*.go" .absolutePattern where
  asks := by decide
  fails := by decide

end OneFixture

/-- A snapshot for which the tree does not let the fixtures be found leaves nothing. -/
theorem tooLong_leaves_nothing :
    ∃ last, (take Host.readRules (OneFixture.suite OneFixture.longName) [] none).outcome
        OneFixture.world = (.error (.search (.file .nameTooLong)), last) ∧
      ∀ place, last.tree.get? place = OneFixture.world.tree.get? place := by
  have down : Tree.GoesDown (OneFixture.suite OneFixture.longName).files := by
    rw [Tree.GoesDown, OneFixture.suite, OneFixture.ofString_longName, List.mem_singleton]
    exact Ne.symm OneFixture.isPlain_longName.notUp
  have failed := OneFixture.taken OneFixture.searched_longName
  rcases failed_snapshot_leaves_nothing_unless_unreadable OneFixture.sound down failed with
    ⟨unread, unreadable, same, -⟩ | ⟨-, same⟩
  · cases same
    exact absurd rfl (SearchPattern.failsOnly_read _ _ unreadable.fails .nameTooLong)
  · exact ⟨_, failed, same⟩

/-! ## A pattern that goes up -/

namespace CopiesBeside

/-- Two fixtures beside the fixtures' directory, and a directory where the second one's copy would
go. -/
def world : World :=
  { tree := { nodes := [(["a"], .file [1]), (["b"], .file [1]), (["c"], .directory),
      (["t"], .directory), (["t", "b"], .directory), (["t", "b", "b"], .directory)] }
    scratch := .ofNames ["t"] }

/-- The suite that finds the fixtures by going up. -/
def config : Config := { root := .ofNames [], codePath := "c", files := "../*" }

/-- The tree with a directory for the copies. -/
def fresh : Tree := world.tree.set ["t", "backup-0"] .directory

/-- The tree with a copy beside the directory as well. -/
def held : Tree := fresh.set ["t", "a"] (.file [1])

/-- The directory is that of the suite. -/
theorem houses : Houses world.tree config ["c"] := by decide

/-- The tree has no links. -/
theorem unlinked_fresh : fresh.Unlinked := by decide

/-- The tree has no links. -/
theorem unlinked_held : held.Unlinked := by decide

/-- Both fixtures are found. -/
theorem searched : fresh.search (.ofNames ["c"]) config.files = .ok ["../a", "../b"] := by
  have read : SearchPattern.read config.files = .ok ⟨[.named "..", .like [.anyText]], false⟩ := by
    decide +kernel
  have rows : fresh.findRows (.ofNames ["c"]) ⟨[.named "..", .like [.anyText]], false⟩ =
      .ok [["..", "a"], ["..", "b"]] := by
    simp only [Tree.findRows, Tree.select_cons, Tree.nextRows, Tree.list, Tree.passes,
      Tree.isDirectory, Tree.isPresent, Tree.isFile, Tree.nodeIs, Tree.node,
      Tree.locate_eq_locateDown unlinked_fresh]
    decide
  exact Tree.search_of_rows _ (by decide) read rows (by decide) (by decide) (by decide)

/-- The first copy goes beside the directory for the copies. -/
theorem copied_first : (copyInto (.ofNames ["c"] / Path.ofString "../a")
    (.ofNames ["t", "backup-0"] / Path.ofString "../a")).outcome
      { world with tree := fresh, serial := 1 } =
        (.ok (), { world with tree := held, serial := 1 }) :=
  outcome_copyInto_eq_ok.2 ⟨fresh, held,
    Tree.makeDirectories_of_locateDown unlinked_fresh ["t"] (by decide),
    Tree.copy_of_locateDown unlinked_fresh ["a"] ["t", "a"] none (by decide) (by decide)
      (by decide) (by simp), rfl⟩

/-- The second copy would go to a directory. -/
theorem copied_second : (copyInto (.ofNames ["c"] / Path.ofString "../b")
    (.ofNames ["t", "backup-0"] / Path.ofString "../b")).outcome
      { world with tree := held, serial := 1 } =
        (.error (.file .isDirectory), { world with tree := held, serial := 1 }) := by
  have made : held.makeDirectories
      (.ofNames ["t", "backup-0"] / Path.ofString "../b").parent = .ok held :=
    Tree.makeDirectories_of_locateDown unlinked_held ["t"] (by decide)
  have copied : held.copy (.ofNames ["c"] / Path.ofString "../b")
      (.ofNames ["t", "backup-0"] / Path.ofString "../b") = .error .isDirectory := by
    simp only [Tree.copy, Tree.copyTarget, Tree.isDirectory, Tree.nodeIs, Tree.sameNode,
      Tree.content, Tree.node, Tree.store, Tree.locate_eq_locateDown unlinked_held]
    decide
  rw [outcome_copyInto]
  simp only [made, copied]

/-- The second copy fails when the first one has gone beside the directory. -/
theorem taken : (take Host.readRules config [] none).outcome world =
    (.error (.file .isDirectory),
      ((giveUp (.scratch (.ofNames ["t", "backup-0"])) (.file .isDirectory)).outcome
        { world with tree := held, serial := 1 }).2) := by
  have one : includedPath fresh [] (.ofNames ["c"] / Path.ofString "../a") = .ok (some "/a") :=
    includedPath_eq_some_iff.2 ⟨.ofNames ["a"],
      Tree.resolveStrict_of_settleDown unlinked_fresh (by decide), by decide, rfl⟩
  have other : includedPath held [] (.ofNames ["c"] / Path.ofString "../b") = .ok (some "/b") :=
    includedPath_eq_some_iff.2 ⟨.ofNames ["b"],
      Tree.resolveStrict_of_settleDown unlinked_held (by decide), by decide, rfl⟩
  have chosen : (choosePlace none).outcome world =
      (.ok (.scratch (.ofNames ["t", "backup-0"])), { world with tree := fresh, serial := 1 }) :=
    outcome_choosePlace_of_stands (by decide) (by decide) (by decide)
  refine outcome_take_of_failed houses.codeDir_eq (houses.ignoredPaths_eq _) chosen ?_
  rw [copyAll, Run.outcome_bind_of_ok (Run.outcome_get _)]
  simp only [searched]
  rw [Run.outcome_bind_of_ok (Run.outcome_ofExcept _ _ _), CopyPlace.directory, copyFound,
    Run.outcome_bind_of_ok (Run.outcome_look_of_ok one)]
  simp only [Option.isSome_some, Bool.not_false, Bool.and_self, if_true]
  rw [Run.outcome_bind_of_ok copied_first]
  refine Run.outcome_bind_of_error ?_ _
  rw [copyFound, Run.outcome_bind_of_ok (Run.outcome_look_of_ok other)]
  simp only [Option.isSome_some, Bool.not_false, Bool.and_self, if_true]
  exact Run.outcome_bind_of_error copied_second _

end CopiesBeside

/-- A snapshot of the run's own that fails does not leave every tree as it was. If the pattern
cannot be read, the directory for the copies stays; if it goes up, so may copies beside that
directory. -/
theorem failed_snapshot_leaves_something :
    (∃ fault last, (take Host.readRules (OneFixture.suite "/*.go") [] none).outcome
        OneFixture.world = (.error fault, last) ∧
      OneFixture.world.tree.get? ["backup-0"] = none ∧
        last.tree.get? ["backup-0"] = some .directory) ∧
    ∃ fault last, (take Host.readRules CopiesBeside.config [] none).outcome CopiesBeside.world =
        (.error fault, last) ∧
      CopiesBeside.world.tree.get? ["t", "a"] = none ∧
        last.tree.get? ["t", "a"] = some (.file [1]) := by
  constructor
  · refine ⟨_, _, OneFixture.taken (OneFixture.unreadable.search_eq _ _), by decide, ?_⟩
    rw [outcome_giveUp_scratch, OneFixture.unreadable.ofTree_eq_false]
    decide
  · refine ⟨_, _, CopiesBeside.taken, by decide, ?_⟩
    have removed : CopiesBeside.held.discardAll (.ofNames ["t", "backup-0"]) =
        .ok (CopiesBeside.held.erase ["t", "backup-0"]) :=
      (Tree.discardAll_eq_ok_iff_stands CopiesBeside.unlinked_held (by decide)).2 ⟨by decide, rfl⟩
    rw [outcome_giveUp_scratch]
    simp only [removed]
    decide

end LintBench
