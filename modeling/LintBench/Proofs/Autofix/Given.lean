import LintBench.Host.IgnoreRules
import LintBench.Proofs.Autofix.Copying
import LintBench.Proofs.Files.Computing
import LintBench.Proofs.Files.Finding
import Mathlib.Logic.Function.Basic

/-!
# Copies in a given directory

Copies are made one after another, and each one gives the file that it goes to what
the copied file holds by then. This tells the content of every file afterwards, also
where a copy fails. A given directory may be such that copies go to files that were
found themselves: these stay as they are exactly if each such copy brings what is
there already.
-/

namespace LintBench

open Text (Bytes)

/-! ## Rows of copies -/

/-- A copy: the place of the copied file, and the place that the copy goes to. -/
structure Move where
  /-- The place of the copied file. -/
  source : Place
  /-- The place of the copy. -/
  goal : Place
deriving DecidableEq, Repr

/-- The contents of files after copies that are made one after another. -/
def moved (moves : List Move) (files : Place → Option Bytes) : Place → Option Bytes :=
  moves.foldl (fun files move => Function.update files move.goal (files move.source)) files

section Moved

variable {moves : List Move} {files : Place → Option Bytes} {found : Place → Prop} {place : Place}

/-- A file that no copy goes to stays as it is. -/
theorem moved_of_not_mem (apart : place ∉ moves.map Move.goal) :
    moved moves files place = files place := by
  induction moves generalizing files with
  | nil => rfl
  | cons move rest ih =>
    rw [List.map_cons, List.mem_cons, not_or] at apart
    rw [moved, List.foldl_cons, ← moved, ih apart.2, Function.update_of_ne apart.1]

/-- A copy that brings what is there already leaves the found files as they are. -/
theorem update_of_agree {move : Move} (agree : found move.goal → files move.source = files move.goal)
    (here : found place) :
    Function.update files move.goal (files move.source) place = files place := by
  by_cases same : place = move.goal
  · subst same
    rw [Function.update_self, agree here]
  · exact Function.update_of_ne same _ _

/-- Found files stay as they are if each copy that goes to one of them brings what is there
already. -/
theorem moved_of_agree (sources : ∀ move ∈ moves, found move.source)
    (agree : ∀ move ∈ moves, found move.goal → files move.source = files move.goal)
    (here : found place) : moved moves files place = files place := by
  induction moves generalizing files with
  | nil => rfl
  | cons move rest ih =>
    obtain ⟨_, otherSources⟩ := List.forall_mem_cons.1 sources
    obtain ⟨first, others⟩ := List.forall_mem_cons.1 agree
    have steady {place : Place} (here : found place) :
        Function.update files move.goal (files move.source) place = files place :=
      update_of_agree first here
    rw [moved, List.foldl_cons, ← moved, ih otherSources ?_, steady here]
    intro other member there
    rw [steady (otherSources other member), steady there]
    exact others other member there

/-- If found files stay as they are, and no two copies go to the same place, then each copy that
goes to one of them brings what is there already. -/
theorem agree_of_moved (sources : ∀ move ∈ moves, found move.source)
    (distinct : (moves.map Move.goal).Nodup)
    (kept : ∀ place, found place → moved moves files place = files place) :
    ∀ move ∈ moves, found move.goal → files move.source = files move.goal := by
  induction moves generalizing files with
  | nil => simp
  | cons move rest ih =>
    obtain ⟨_, otherSources⟩ := List.forall_mem_cons.1 sources
    rw [List.map_cons, List.nodup_cons] at distinct
    let next := Function.update files move.goal (files move.source)
    have later (place : Place) : moved (move :: rest) files place = moved rest next place := rfl
    have first : found move.goal → files move.source = files move.goal := by
      intro there
      rw [← kept move.goal there, later, moved_of_not_mem distinct.1]
      exact (Function.update_self move.goal (files move.source) files).symm
    have steady {place : Place} (here : found place) : next place = files place :=
      update_of_agree first here
    have others : ∀ move ∈ rest, found move.goal → next move.source = next move.goal :=
      ih otherSources distinct.2 fun place here => by rw [← later, kept place here, steady here]
    refine List.forall_mem_cons.2 ⟨first, fun other member there => ?_⟩
    rw [← steady (otherSources other member), ← steady there]
    exact others other member there

end Moved

namespace Tree

variable {tree after : Tree} {path : Path}

/-! ## Files by their places -/

/-- The content of the file at a place. -/
def fileAt (tree : Tree) (place : Place) : Option Bytes :=
  match tree.get? place with
  | some (.file content) => some content
  | _ => none

/-- The content at a place is that of the file which stands there. -/
theorem fileAt_eq_some_iff {place : Place} {content : Bytes} :
    tree.fileAt place = some content ↔ tree.get? place = some (.file content) := by
  unfold fileAt
  split
  · rename_i other found
    simp [found]
  · rename_i none
    simp only [reduceCtorEq, false_iff]
    exact fun found => none content found

/-- Where only directories are added the files are the same. -/
theorem AddsDirectories.fileAt_eq (adds : tree.AddsDirectories after) : after.fileAt = tree.fileAt := by
  funext place
  refine Option.ext fun content => ?_
  rw [fileAt_eq_some_iff, fileAt_eq_some_iff, adds.file_iff]

/-- A file that is set holds what it was given; the others are as they were. -/
theorem fileAt_set (tree : Tree) {place : Place} (inner : place ≠ []) (content : Bytes) :
    (tree.set place (.file content)).fileAt = Function.update tree.fileAt place (some content) := by
  funext asked
  by_cases same : asked = place
  · subst same
    rw [Function.update_self, fileAt_eq_some_iff, get?_set tree asked asked _ inner, if_pos rfl]
  · rw [Function.update_of_ne same, fileAt, get?_set tree place asked _ inner, if_neg (Ne.symm same)]
    rfl

/-- The content that a path leads to is that of the file at the place. -/
theorem content_eq_ok_iff_leadsToFile {content : Bytes} :
    tree.content path = .ok content ↔
      ∃ place, tree.LeadsToFile path place ∧ tree.fileAt place = some content := by
  rw [content_eq_ok_iff, node_eq_ok_iff]
  constructor
  · rintro ⟨⟨place, node⟩, located, rfl⟩
    exact ⟨place, ⟨content, located⟩, fileAt_eq_some_iff.2 (node_of_locate located).symm⟩
  · rintro ⟨place, ⟨other, located⟩, found⟩
    have stands : some (Node.file other) = tree.get? place := node_of_locate located
    rw [fileAt_eq_some_iff.1 found] at stands
    cases stands
    exact ⟨_, located, rfl⟩

/-- A path leads to one file. -/
theorem LeadsToFile.unique {one other : Place} (first : tree.LeadsToFile path one)
    (second : tree.LeadsToFile path other) : one = other := by
  obtain ⟨_, located⟩ := first
  obtain ⟨_, again⟩ := second
  cases located.symm.trans again
  rfl

/-- A path leads to the file that is set where it leads. -/
theorem leadsToFile_set {place : Place} {node : Option Node}
    (located : tree.locate true path = .ok ⟨place, node⟩) (free : node ≠ some .directory)
    (content : Bytes) (grown : tree.Extends (tree.set place (.file content))) :
    (tree.set place (.file content)).LeadsToFile path place := by
  obtain ⟨noNul, short, way⟩ := locate_eq_ok_iff.1 located
  cases node with
  | none => exact ⟨content, locate_eq_ok_iff.2 ⟨noNul, short, way.set rfl (by simp)⟩⟩
  | some node =>
    cases node with
    | file present => exact LeadsToFile.extend ⟨present, located⟩ grown
    | link other => exact absurd rfl (way.node_ne_link tree.enterable_nil other)
    | directory => exact absurd rfl free

/-- A copy goes where it went also when its file is there. -/
theorem copyTarget_extend {source target : Path} {place : Place} (grown : tree.Extends after)
    (leads : after.LeadsToFile (tree.copyTarget source target) place) :
    after.copyTarget source target = tree.copyTarget source target := by
  by_cases into : tree.isDirectory target = .ok true
  · have still : after.isDirectory target = .ok true := by
      rw [isDirectory_eq_true_iff, node_eq_ok_iff] at into ⊢
      obtain ⟨⟨there, node⟩, located, rfl⟩ := into
      obtain ⟨next, later, kind⟩ := locate_extend grown located
      exact ⟨_, later, congrArg some (show Node.directory = next from kind).symm⟩
    rw [copyTarget, copyTarget, into, still]
  · have goal : tree.copyTarget source target = target := by
      unfold copyTarget
      split
      · rename_i isDirectory
        exact absurd isDirectory into
      · rfl
    rw [goal] at leads ⊢
    obtain ⟨content, located⟩ := leads
    have file : after.isDirectory target = .ok false := by
      rw [isDirectory, nodeIs, Tree.node, located]
    rw [copyTarget, file]

end Tree

namespace Snapshot

variable {before middle after : Tree} {codeDir target : Path} {done found : List String}
  {moves : List Move}

/-- Whether a move is that of a found file: the file is at its source, and the copy at its goal. -/
structure IsMove (tree : Tree) (codeDir target : Path) (relative : String) (move : Move) : Prop where
  /-- The found file is at the source. -/
  source : tree.LeadsToFile (codeDir / Path.ofString relative) move.source
  /-- The copy is at the goal. -/
  goal : tree.LeadsToFile
    (tree.copyTarget (codeDir / Path.ofString relative) (target / Path.ofString relative)) move.goal

/-- A copy stays where it is in a tree that grows. -/
theorem IsMove.extend {relative : String} {move : Move}
    (isMove : IsMove middle codeDir target relative move) (grown : middle.Extends after) :
    IsMove after codeDir target relative move where
  source := isMove.source.extend grown
  goal := by
    have there := isMove.goal.extend grown
    rwa [Tree.copyTarget_extend grown there]

/-- What becomes of a tree when found files are copied: it grows, each copy is where it goes, and
every file holds what the copies bring it. -/
structure Brings (before after : Tree) (codeDir target : Path) (done : List String)
    (moves : List Move) : Prop where
  /-- The tree grows. -/
  grown : before.Extends after
  /-- Each copy is at its place. -/
  each : List.Forall₂ (IsMove after codeDir target) done moves
  /-- The files hold what the copies bring. -/
  files : after.fileAt = moved moves before.fileAt

/-- Where only directories are added no copy is made. -/
theorem Brings.of_addsDirectories (grown : before.Extends after) (adds : before.AddsDirectories after) :
    Brings before after codeDir target [] [] where
  grown := grown
  each := .nil
  files := adds.fileAt_eq

/-- A copy comes before those that are made after it. -/
theorem Brings.cons {relative : String} {move : Move}
    (first : Brings before middle codeDir target [relative] [move])
    (later : Brings middle after codeDir target done moves) :
    Brings before after codeDir target (relative :: done) (move :: moves) where
  grown := first.grown.trans later.grown
  each := by
    have here := (List.forall₂_cons.1 first.each).1
    exact .cons (here.extend later.grown) later.each
  files := by
    rw [later.files, first.files]
    rfl

/-- A copy that is made brings the content of the copied file. -/
theorem exists_brings_of_copy {directories : Tree} {relative : String}
    (made : before.makeDirectories (target / Path.ofString relative).parent = .ok directories)
    (copied : directories.copy (codeDir / Path.ofString relative)
      (target / Path.ofString relative) = .ok after) :
    ∃ move, Brings before after codeDir target [relative] [move] := by
  obtain ⟨-, content, read, stored⟩ := Tree.copy_eq_ok_iff.1 copied
  obtain ⟨source, leads, held⟩ := Tree.content_eq_ok_iff_leadsToFile.1 read
  obtain ⟨⟨goal, node⟩, located, free, rfl⟩ := Tree.store_eq_ok_iff.1 stored
  have grownFirst := Tree.extends_makeDirectories made
  have grown := Tree.extends_copy copied
  have inner : goal ≠ [] := by
    rintro rfl
    rw [Tree.node_of_locate located] at free
    exact free directories.get?_nil
  have there := Tree.leadsToFile_set located free content grown
  have unchanged := (Tree.addsDirectories_makeDirectories made).fileAt_eq
  refine ⟨⟨source, goal⟩, grownFirst.trans grown, ?_, ?_⟩
  · refine .cons ⟨leads.extend grown, ?_⟩ .nil
    rwa [Tree.copyTarget_extend grown there]
  · rw [Tree.fileAt_set directories inner, ← held, unchanged]
    rfl

/-- Whatever becomes of copying found files, some of them were copied, in their order, and nothing
else was changed in the files. -/
theorem exists_brings_copyFound (codeDir target : Path) (included : List String)
    (ignored : String → Bool) (found : List String) (world : World) :
    ∃ done moves, done.Sublist found ∧
      Brings world.tree ((copyFound codeDir target included ignored found).outcome world).2.tree
        codeDir target done moves ∧
      ∀ copied, ((copyFound codeDir target included ignored found).outcome world).1 = .ok copied →
        copied = done := by
  induction found generalizing world with
  | nil =>
    refine ⟨[], [], .slnil, .of_addsDirectories (.refl _) (.refl _), fun _ same => ?_⟩
    cases same
    rfl
  | cons relative rest ih =>
    have nothing (world : World) (fault : RunFault) :
        ∃ done moves, done.Sublist (relative :: rest) ∧
          Brings world.tree world.tree codeDir target done moves ∧
          ∀ copied, (.error fault : Except RunFault (List String)) = .ok copied → copied = done :=
      ⟨[], [], List.nil_sublist _, .of_addsDirectories (.refl _) (.refl _), by simp⟩
    rw [copyFound, Run.outcome_look_bind]
    cases includedPath world.tree included (codeDir / Path.ofString relative) with
    | error fault => exact nothing world _
    | ok takesPart =>
      simp only
      split
      · rw [Run.outcome_bind, outcome_copyInto]
        cases made : world.tree.makeDirectories (target / Path.ofString relative).parent with
        | error fault => exact nothing world _
        | ok directories =>
          simp only
          cases copied : directories.copy (codeDir / Path.ofString relative)
              (target / Path.ofString relative) with
          | error fault =>
            exact ⟨[], [], List.nil_sublist _, .of_addsDirectories (Tree.extends_makeDirectories made)
              (Tree.addsDirectories_makeDirectories made), fun _ same => by cases same⟩
          | ok tree =>
            obtain ⟨move, first⟩ := exists_brings_of_copy made copied
            obtain ⟨done, moves, part, brings, same⟩ := ih { world with tree }
            refine ⟨relative :: done, move :: moves, part.cons_cons relative, first.cons ?_, ?_⟩
            · simpa only [bind_pure_comp, Run.outcome_map] using brings
            · intro copied ended
              simp only [bind_pure_comp, Run.outcome_map] at ended
              obtain ⟨others, ran, rfl⟩ := Runs.map_eq_ok.1 ended
              rw [same others ran]
      · obtain ⟨done, moves, part, brings, same⟩ := ih world
        exact ⟨done, moves, part.cons relative, brings, same⟩

/-- Nothing is removed from a given directory. -/
theorem outcome_giveUp_given (directory : Path) (fault : RunFault) (world : World) :
    (giveUp (.given directory) fault).outcome world = (.error fault, world) := by
  unfold giveUp
  cases fault.ofTree <;> rfl

/-- Whatever becomes of a snapshot in a given directory, some of the found files were copied, in
their order, and nothing else was changed in the files. -/
theorem exists_brings_take (readRules : IgnoreReader) {config : Config} {world : World}
    (included : List String)
    (directory : Path) (coded : config.codeDir world.tree = .ok codeDir)
    (searched : world.tree.search codeDir config.files = .ok found) :
    ∃ done moves, done.Sublist found ∧
      Brings world.tree ((take readRules config included (some directory)).outcome world).2.tree codeDir
        directory done moves ∧
      ∀ snapshot, ((take readRules config included (some directory)).outcome world).1 = .ok snapshot →
        snapshot.copied = done := by
  have tried (ignored : String → Bool) :
      (copyAll config codeDir directory included ignored).outcome world =
        (copyFound codeDir directory included ignored found).outcome world := by
    rw [copyAll, Run.outcome_bind_of_ok (Run.outcome_get world), searched,
      Run.outcome_bind_of_ok (Run.outcome_ofExcept _ _ _)]
  rcases ran : (take readRules config included (some directory)).outcome world with
    ⟨fault | snapshot, last⟩
  · rcases outcome_take_eq_error ran with
      ⟨-, same⟩ | ⟨base, ignored, place, start, later, here, chosen, copying, rfl⟩
    · have unchanged : world.tree.AddsDirectories last.tree := by
        rw [same]
        exact .refl _
      exact ⟨[], [], List.nil_sublist found, .of_addsDirectories (same ▸ .refl _) unchanged,
        fun _ ended => by cases ended⟩
    · cases chosen
      obtain rfl : codeDir = base := Except.ok.inj (coded.symm.trans here)
      rw [CopyPlace.directory, tried] at copying
      obtain ⟨done, moves, part, brings, -⟩ :=
        exists_brings_copyFound codeDir directory included ignored found world
      rw [copying] at brings
      rw [outcome_giveUp_given]
      exact ⟨done, moves, part, brings, fun _ ended => by cases ended⟩
  · obtain ⟨ignored, start, -, here, -, chosen, copying⟩ := outcome_take_eq_ok.1 ran
    obtain ⟨base, place, rows, restored⟩ := snapshot
    cases chosen
    obtain rfl : codeDir = base := Except.ok.inj (coded.symm.trans here)
    simp only [CopyPlace.directory, tried] at copying
    obtain ⟨done, moves, part, brings, same⟩ :=
      exists_brings_copyFound codeDir directory included ignored found world
    rw [copying] at brings same
    refine ⟨done, moves, part, brings, fun other ended => ?_⟩
    cases ended
    exact same rows rfl

end Snapshot

open Snapshot

/-- Whether a place is that of a file that was found. -/
def IsFoundAt (tree : Tree) (codeDir : Path) (found : List String) (place : Place) : Prop :=
  ∃ relative ∈ found, tree.LeadsToFile (codeDir / Path.ofString relative) place

/-- Whether each found file holds afterwards what it held before. -/
def FoundKept (before after : Tree) (codeDir : Path) (found : List String) : Prop :=
  ∀ relative ∈ found, ∃ content, before.content (codeDir / Path.ofString relative) = .ok content ∧
    after.content (codeDir / Path.ofString relative) = .ok content

/-- Whether each copy that goes to a found file brings what is there already. -/
def BringsNothingNew (tree : Tree) (codeDir : Path) (found : List String) (moves : List Move) : Prop :=
  ∀ move ∈ moves, IsFoundAt tree codeDir found move.goal →
    tree.fileAt move.source = tree.fileAt move.goal

section Kept

variable {before after : Tree} {codeDir directory : Path} {found done : List String}
  {moves : List Move}

/-- What a search finds leads to files, where names are names. -/
theorem exists_leadsToFile {pattern relative : String}
    (named : ∀ entry ∈ before.nodes, ∀ name ∈ entry.1, Path.IsProper name)
    (searched : before.search codeDir pattern = .ok found) (member : relative ∈ found) :
    ∃ place, before.LeadsToFile (codeDir / Path.ofString relative) place := by
  obtain ⟨names, rfl, -, proper, isFile⟩ := Tree.good_of_mem_search named
    (fun _ inside => Path.isProper_of_mem_ofString inside) searched member
  rw [Path.ofString_toString proper]
  exact Tree.isFile_eq_true_iff_leadsToFile.1 isFile

/-- Found files are kept exactly if the same is at their places. -/
theorem foundKept_iff (grown : before.Extends after)
    (files : ∀ relative ∈ found, ∃ place,
      before.LeadsToFile (codeDir / Path.ofString relative) place) :
    FoundKept before after codeDir found ↔
      ∀ place, IsFoundAt before codeDir found place → after.fileAt place = before.fileAt place := by
  constructor
  · rintro kept place ⟨relative, member, leads⟩
    obtain ⟨content, read, still⟩ := kept relative member
    obtain ⟨one, toOne, here⟩ := Tree.content_eq_ok_iff_leadsToFile.1 read
    obtain ⟨other, toOther, there⟩ := Tree.content_eq_ok_iff_leadsToFile.1 still
    rw [leads.unique toOne, here]
    rw [(toOne.extend grown).unique toOther, there]
  · intro same relative member
    obtain ⟨place, leads⟩ := files relative member
    have kept := same place ⟨relative, member, leads⟩
    obtain ⟨content, located⟩ := leads
    have held : before.fileAt place = some content :=
      Tree.fileAt_eq_some_iff.2 (Tree.node_of_locate located).symm
    refine ⟨content, Tree.content_eq_ok_iff_leadsToFile.2 ⟨place, ⟨content, located⟩, held⟩, ?_⟩
    exact Tree.content_eq_ok_iff_leadsToFile.2
      ⟨place, Tree.LeadsToFile.extend ⟨content, located⟩ grown, kept.trans held⟩

/-- What is related to a row place by place is related to something in it. -/
theorem exists_mem_of_forall₂ {α β : Type} {related : α → β → Prop} {items : List α} {others : List β}
    (each : List.Forall₂ related items others) {other : β} (member : other ∈ others) :
    ∃ item ∈ items, related item other := by
  induction each with
  | nil => cases member
  | @cons item _ _ _ here _ ih =>
    rcases List.mem_cons.1 member with rfl | later
    · exact ⟨item, List.mem_cons_self, here⟩
    · obtain ⟨found, inside, holds⟩ := ih later
      exact ⟨found, List.mem_cons_of_mem _ inside, holds⟩

/-- The copied files are found ones. -/
theorem Snapshot.Brings.isFoundAt_source (brings : Brings before after codeDir directory done moves)
    (part : done.Sublist found)
    (files : ∀ relative ∈ found, ∃ place,
      before.LeadsToFile (codeDir / Path.ofString relative) place) :
    ∀ move ∈ moves, IsFoundAt before codeDir found move.source := by
  intro move member
  obtain ⟨relative, inside, isMove⟩ := exists_mem_of_forall₂ brings.each member
  obtain ⟨place, leads⟩ := files relative (part.subset inside)
  rw [isMove.source.unique (leads.extend brings.grown)]
  exact ⟨relative, part.subset inside, leads⟩

end Kept

/-- Whatever becomes of a snapshot in a given directory, some of the found files were copied one
after another, and no other file has changed. If each copy that goes to a found file brings what is
there already, the found files are kept; and where no two copies go to the same place, they are kept
only then. -/
theorem found_files_kept_unless_copied_over (readRules : IgnoreReader) (config : Config)
    (included : List String) (directory codeDir : Path) (found : List String) (world : World)
    (named : ∀ entry ∈ world.tree.nodes, ∀ name ∈ entry.1, Path.IsProper name)
    (coded : config.codeDir world.tree = .ok codeDir)
    (searched : world.tree.search codeDir config.files = .ok found) :
    ∃ done moves, done.Sublist found ∧
      Brings world.tree
        ((take readRules config included (some directory)).outcome world).2.tree codeDir directory
        done moves ∧
      (∀ snapshot,
        ((take readRules config included (some directory)).outcome world).1 = .ok snapshot →
          snapshot.copied = done) ∧
      (BringsNothingNew world.tree codeDir found moves →
        FoundKept world.tree
          ((take readRules config included (some directory)).outcome world).2.tree codeDir
          found) ∧
      ((moves.map Move.goal).Nodup →
        FoundKept world.tree
          ((take readRules config included (some directory)).outcome world).2.tree codeDir found →
        BringsNothingNew world.tree codeDir found moves) := by
  obtain ⟨done, moves, part, brings, copied⟩ :=
    exists_brings_take readRules included directory coded searched
  have files (relative : String) (member : relative ∈ found) :=
    exists_leadsToFile named searched member
  have sources := brings.isFoundAt_source part files
  refine ⟨done, moves, part, brings, copied, fun nothingNew => ?_, fun distinct kept => ?_⟩
  · rw [foundKept_iff brings.grown files, brings.files]
    exact fun place here => moved_of_agree sources nothingNew here
  · rw [foundKept_iff brings.grown files, brings.files] at kept
    exact agree_of_moved sources distinct kept

/-! ## A copy that goes to a fixture -/

namespace CopiesOfCopies

/-- A fixture, and the directory of the copies with what was copied there before. -/
def world : World :=
  { tree := { nodes := [(["a.go"], .file [1]), (["out"], .directory), (["out", "a.go"], .file [2]),
      (["out", "out"], .directory)] } }

/-- A suite at the root that finds the fixture at any depth, so that it finds the copy too. -/
def config : Config := { root := .ofNames [], codePath := ".", files := "**/a.go" }

/-- The tree when the fixture has been copied. -/
def held : Tree := world.tree.set ["out", "a.go"] (.file [1])

/-- The tree when the copy has been copied too. -/
def last : Tree := held.set ["out", "out", "a.go"] (.file [1])

/-- The root holds the fixtures of the suite. -/
theorem houses : Snapshot.Houses world.tree config [] := by decide

/-- The tree has no links. -/
theorem unlinked_held : held.Unlinked := by decide

/-- All names are names of files. -/
theorem named : ∀ entry ∈ world.tree.nodes, ∀ name ∈ entry.1, Path.IsProper name := by decide

/-- The fixture, which is copied first. -/
theorem stands_fixture : world.tree.Stands (.ofNames ["a.go"]) (some (.file [1])) := by decide

/-- The copy that was made before. -/
theorem stands_copy : world.tree.Stands (.ofNames ["out", "a.go"]) (some (.file [2])) := by decide

/-- The copy when it has been copied over. -/
theorem stands_copied : held.Stands (.ofNames ["out", "a.go"]) (some (.file [1])) := by decide

/-- The fixture is found, and the copy that was made before. -/
theorem searched : world.tree.search (.ofNames []) config.files = .ok ["a.go", "out/a.go"] := by
  have rows : world.tree.findRows (.ofNames []) ⟨[.anyDepth, .named "a.go"], false⟩ =
      .ok [["a.go"], ["out", "a.go"]] := by
    simp only [Tree.findRows, Tree.select_cons, Tree.nextRows, Tree.directoriesBelow,
      Tree.directoriesBelowPlace, Tree.passes, Tree.isDirectory, Tree.isPresent, Tree.isFile,
      Tree.nodeIs, Tree.node, Tree.locate_eq_locateDown houses.unlinked]
    decide
  have read : SearchPattern.read config.files = .ok ⟨[.anyDepth, .named "a.go"], false⟩ := by decide
  exact Tree.search_of_rows _ (by decide) read rows (by decide) (by decide) (by decide)

/-- The fixture is copied over the copy that was made before. -/
theorem copied_fixture : (copyInto (.ofNames [] / Path.ofString "a.go")
    (.ofNames ["out"] / Path.ofString "a.go")).outcome world =
      (.ok (), { world with tree := held }) :=
  outcome_copyInto_eq_ok.2 ⟨world.tree, held,
    Tree.makeDirectories_of_stands houses.unlinked (by decide) (by decide),
    Tree.copy_of_stands houses.unlinked (by decide) (by decide) (by decide) stands_fixture
      stands_copy (by simp), rfl⟩

/-- The copy is copied further. -/
theorem copied_copy : (copyInto (.ofNames [] / Path.ofString "out/a.go")
    (.ofNames ["out"] / Path.ofString "out/a.go")).outcome { world with tree := held } =
      (.ok (), { world with tree := last }) := by
  have free : held.Stands (.ofNames ["out", "out", "a.go"]) none := by decide
  exact outcome_copyInto_eq_ok.2 ⟨held, last,
    Tree.makeDirectories_of_stands unlinked_held (by decide) (by decide),
    Tree.copy_of_stands unlinked_held (by decide) (by decide) (by decide) stands_copied free
      (by simp), rfl⟩

/-- Both are copied, one after the other. -/
theorem taken : (take Host.readRules config [] (some (.ofNames ["out"]))).outcome world =
    (.ok { codeDir := .ofNames []
           place := .given (.ofNames ["out"])
           copied := ["a.go", "out/a.go"] }, { world with tree := last }) := by
  have one : includedPath world.tree [] (.ofNames [] / Path.ofString "a.go") =
      .ok (some "/a.go") :=
    includedPath_eq_some_iff.2 ⟨_, Tree.resolveStrict_of_stands houses.unlinked (by decide)
      stands_fixture, by decide, rfl⟩
  have other : includedPath held [] (.ofNames [] / Path.ofString "out/a.go") =
      .ok (some "/out/a.go") :=
    includedPath_eq_some_iff.2 ⟨_, Tree.resolveStrict_of_stands unlinked_held (by decide)
      stands_copied, by decide, rfl⟩
  refine outcome_take_eq_ok.2 ⟨_, world, rfl, houses.codeDir_eq, houses.ignoredPaths_eq _,
    outcome_choosePlace_eq_ok.2 (.inl ⟨_, rfl, rfl, rfl⟩), ?_⟩
  rw [copyAll, Run.outcome_bind_of_ok (Run.outcome_get _), searched,
    Run.outcome_bind_of_ok (Run.outcome_ofExcept _ _ _)]
  exact outcome_copyFound_cons one rfl copied_fixture
    (outcome_copyFound_cons other rfl copied_copy (Run.outcome_pure _ _))

/-- The copy that was made before has a content of its own. -/
theorem content_before :
    world.tree.content (.ofNames [] / Path.ofString "out/a.go") = .ok [2] :=
  (Tree.content_eq_ok_iff_stands houses.unlinked (by decide)).2 stands_copy

/-- It has the content of the fixture afterwards. -/
theorem content_after : last.content (.ofNames [] / Path.ofString "out/a.go") = .ok [1] :=
  (Tree.content_eq_ok_iff_stands (by decide) (by decide)).2 (by decide)

/-- The copy that was found is not kept. -/
theorem not_foundKept :
    ¬ FoundKept world.tree
      ((take Host.readRules config [] (some (.ofNames ["out"]))).outcome world).2.tree
      (.ofNames []) ["a.go", "out/a.go"] := by
  intro kept
  obtain ⟨content, before, after⟩ := kept "out/a.go" (by simp)
  rw [content_before] at before
  rw [taken, content_after] at after
  cases before
  cases after

end CopiesOfCopies

/-- A copy that was made before is found as a fixture is, and the new copy of the fixture, with
another content, goes to it. -/
theorem brings_new_over_found :
    ∃ moves, Brings CopiesOfCopies.world.tree CopiesOfCopies.last (.ofNames []) (.ofNames ["out"])
        ["a.go", "out/a.go"] moves ∧
      ¬ BringsNothingNew CopiesOfCopies.world.tree (.ofNames []) ["a.go", "out/a.go"] moves := by
  obtain ⟨done, moves, -, brings, copied, kept, -⟩ :=
    found_files_kept_unless_copied_over Host.readRules CopiesOfCopies.config [] (.ofNames ["out"])
      (.ofNames []) ["a.go", "out/a.go"] CopiesOfCopies.world CopiesOfCopies.named
      CopiesOfCopies.houses.codeDir_eq CopiesOfCopies.searched
  rw [CopiesOfCopies.taken] at brings copied
  obtain rfl := copied _ rfl
  exact ⟨moves, brings, fun nothingNew => CopiesOfCopies.not_foundKept (kept nothingNew)⟩

/-- Copies in a given directory do not leave every file that was found as it was: what was copied
there before may be found too, and is copied over. -/
theorem copying_changes_a_found_file :
    ∃ (config : Config) (included : List String) (directory codeDir : Path) (found : List String)
      (world : World), config.codeDir world.tree = .ok codeDir ∧
        world.tree.search codeDir config.files = .ok found ∧
        ¬ FoundKept world.tree
          ((take Host.readRules config included (some directory)).outcome world).2.tree
          codeDir found :=
  ⟨CopiesOfCopies.config, [], .ofNames ["out"], .ofNames [], _, CopiesOfCopies.world,
    CopiesOfCopies.houses.codeDir_eq, CopiesOfCopies.searched, CopiesOfCopies.not_foundKept⟩

end LintBench
