import LintBench.Autofix.Snapshot
import LintBench.Proofs.Run.Outcome
import LintBench.Proofs.Suite.Housing

/-!
# Copying fixtures

What is known of the steps that make a snapshot: which of the found files they
copy, and that a snapshot which is made only adds to the file tree.
-/

namespace LintBench

/-- A path resolves, where it may be absent, exactly if it resolves. -/
theorem Tree.resolveIfThere_eq_some_iff {tree : Tree} {path resolved : Path} :
    tree.resolveIfThere path = .ok (some resolved) ↔ tree.resolveStrict path = .ok resolved := by
  unfold resolveIfThere
  cases tree.resolveStrict path with
  | ok found => simp
  | error fault =>
    simp only [reduceCtorEq, iff_false]
    split <;> simp

/-- A path that is included has resolved. -/
theorem includedPath_eq_some_iff {tree : Tree} {included : List String} {path : Path}
    {shown : String} :
    includedPath tree included path = .ok (some shown) ↔
      ∃ resolved, tree.resolveStrict path = .ok resolved ∧ resolved.toString = shown ∧
        isIncluded included shown = true := by
  unfold includedPath
  simp only [Runs.bind_eq_ok, ← Tree.resolveIfThere_eq_some_iff]
  constructor
  · rintro ⟨found, ran, picked⟩
    cases found with
    | none => cases picked
    | some resolved =>
      simp only [pure, Except.pure, Except.ok.injEq] at picked
      split at picked
      · cases picked
        exact ⟨resolved, ran, rfl, by assumption⟩
      · cases picked
  · rintro ⟨resolved, ran, rfl, within⟩
    exact ⟨some resolved, ran, by simp [within, pure, Except.pure]⟩

/-- A path that resolves is told if it is included. -/
theorem includedPath_of_leads {tree : Tree} {path resolved : Path} (included : List String)
    (leads : tree.resolveStrict path = .ok resolved) :
    includedPath tree included path =
      .ok (if isIncluded included resolved.toString then some resolved.toString else none) := by
  rw [includedPath, Tree.resolveIfThere_eq_some_iff.2 leads]
  rfl

namespace Snapshot

variable {readRules : IgnoreReader} {codeDir target : Path} {included : List String}
  {ignored : String → Bool} {world last : World}

/-- A copy that fails leaves the directories that were made for it. -/
theorem outcome_copyInto (source target : Path) (world : World) :
    (copyInto source target).outcome world =
      match world.tree.makeDirectories target.parent with
      | .error fault => (.error (.file fault), world)
      | .ok directories =>
        match directories.copy source target with
        | .error fault => (.error (.file fault), { world with tree := directories })
        | .ok tree => (.ok (), { world with tree }) := by
  rw [copyInto, Run.outcome_bind, Run.outcome_change]
  cases world.tree.makeDirectories target.parent with
  | error fault => rfl
  | ok directories =>
    simp only [Run.outcome_change]
    cases directories.copy source target <;> rfl

/-- A file is copied into a directory that is made before. -/
theorem outcome_copyInto_eq_ok {source target : Path} {done : Unit} :
    (copyInto source target).outcome world = (.ok done, last) ↔
      ∃ directories tree, world.tree.makeDirectories target.parent = .ok directories ∧
        directories.copy source target = .ok tree ∧ last = { world with tree } := by
  simp only [copyInto, Run.outcome_bind_eq_ok, Run.outcome_change_eq_ok]
  constructor
  · rintro ⟨_, _, ⟨directories, made, rfl⟩, tree, copied, rfl⟩
    exact ⟨directories, tree, made, copied, rfl⟩
  · rintro ⟨directories, tree, made, copied, rfl⟩
    exact ⟨(), _, ⟨directories, made, rfl⟩, tree, copied, rfl⟩

/-- Whether a found file is one that is copied. -/
def TakesPart (tree : Tree) (codeDir : Path) (included : List String) (ignored : String → Bool)
    (relative : String) : Prop :=
  (∃ shown, includedPath tree included (codeDir / Path.ofString relative) = .ok (some shown)) ∧
    ignored relative = false

/-- A found file is copied if it takes part, and the others after it. -/
theorem outcome_copyFound_cons_eq_ok {relative : String} {rest copied : List String}
    (ran : (copyFound codeDir target included ignored (relative :: rest)).outcome world =
      (.ok copied, last)) :
    (TakesPart world.tree codeDir included ignored relative ∧
      ∃ middle others, copied = relative :: others ∧
        (copyInto (codeDir / Path.ofString relative)
          (target / Path.ofString relative)).outcome world = (.ok (), middle) ∧
        (copyFound codeDir target included ignored rest).outcome middle = (.ok others, last)) ∨
    (¬ TakesPart world.tree codeDir included ignored relative ∧
      (copyFound codeDir target included ignored rest).outcome world = (.ok copied, last)) := by
  obtain ⟨picked, _, question, later⟩ := Run.outcome_bind_eq_ok.1 ran
  obtain ⟨looked, rfl⟩ := Run.outcome_look_eq_ok.1 question
  have part : TakesPart world.tree codeDir included ignored relative ↔
      (picked.isSome && !ignored relative) = true := by
    simp [TakesPart, looked, Option.isSome_iff_exists]
  split at later
  · rename_i takes
    obtain ⟨_, middle, copied, remaining⟩ := Run.outcome_bind_eq_ok.1 later
    obtain ⟨others, _, found, same⟩ := Run.outcome_bind_eq_ok.1 remaining
    cases same
    exact .inl ⟨part.2 takes, middle, others, rfl, copied, found⟩
  · rename_i passed
    exact .inr ⟨fun takes => passed (part.1 takes), later⟩

/-- Copying a file changes nothing but the tree. -/
theorem keeps_copyInto {kept : World → Prop} (source target : Path)
    (free : ∀ world tree, kept world → kept { world with tree }) :
    Run.Keeps (copyInto source target) kept :=
  .bind (.change fun world tree _ => free world tree)
    fun _ => .change fun world tree _ => free world tree

/-- Copying the found files changes nothing but the tree. -/
theorem keeps_copyFound {kept : World → Prop} (found : List String)
    (free : ∀ world tree, kept world → kept { world with tree }) :
    Run.Keeps (copyFound codeDir target included ignored found) kept := by
  induction found with
  | nil => exact .pure []
  | cons relative rest ih =>
    rw [copyFound]
    refine .bind (.look _) fun shown => ?_
    split
    · exact .bind (keeps_copyInto _ _ free) fun _ => .bind ih fun _ => .pure _
    · exact ih

/-- Copying a file extends the tree. -/
theorem extends_copyInto {source target : Path} {done : Unit}
    (ran : (copyInto source target).outcome world = (.ok done, last)) :
    world.tree.Extends last.tree := by
  obtain ⟨directories, tree, made, copied, rfl⟩ := outcome_copyInto_eq_ok.1 ran
  exact (Tree.extends_makeDirectories made).trans (Tree.extends_copy copied)

/-- Copying the found files extends the tree, and in that tree each copied file resolves to an
included path. -/
theorem extends_copyFound {found copied : List String}
    (ran : (copyFound codeDir target included ignored found).outcome world = (.ok copied, last)) :
    world.tree.Extends last.tree ∧
      ∀ relative ∈ copied, ∃ resolved,
        last.tree.resolveStrict (codeDir / Path.ofString relative) = .ok resolved ∧
          isIncluded included resolved.toString = true := by
  induction found generalizing world copied with
  | nil =>
    cases ran
    exact ⟨.refl _, by simp⟩
  | cons relative rest ih =>
    rcases outcome_copyFound_cons_eq_ok ran with
      ⟨⟨⟨shown, picked⟩, -⟩, middle, others, rfl, copied, remaining⟩ | ⟨-, remaining⟩
    · obtain ⟨grown, each⟩ := ih remaining
      have whole := (extends_copyInto copied).trans grown
      refine ⟨whole, List.forall_mem_cons.2 ⟨?_, each⟩⟩
      obtain ⟨resolved, leads, rfl, within⟩ := includedPath_eq_some_iff.1 picked
      exact ⟨resolved, Tree.resolveStrict_extend whole leads, within⟩
    · exact ih remaining

/-! ## Making a snapshot -/

/-- Choose where the copies go: to a given directory, or to one of the run's own. -/
def choosePlace (given : Option Path) : Run CopyPlace :=
  match given with
  | some directory => pure (CopyPlace.given directory)
  | none => CopyPlace.scratch <$> makeScratch

/-- Find the fixtures and copy those that take part. -/
def copyAll (config : Config) (codeDir target : Path) (included : List String)
    (ignored : String → Bool) : Run (List String) := do
  let found ← Run.ofExcept .search ((← get).tree.search codeDir config.files)
  copyFound codeDir target included ignored found

/-- Remove the directory of the run's own if the file tree did not allow the copies. -/
def giveUp (place : CopyPlace) (fault : RunFault) : Run (List String) := do
  if fault.ofTree then
    match place with
    | .scratch directory =>
      modify fun world =>
        { world with tree := (world.tree.discardAll directory).toOption.getD world.tree }
    | .given _ => pure ()
  throw fault

/-- A snapshot is made in four steps: what is read first, where the copies go, the copies, and
what is done if they fail. -/
theorem take_eq (readRules : IgnoreReader) (config : Config) (included : List String)
    (given : Option Path) :
    take readRules config included given = (do
      let codeDir ← Run.look config.codeDir
      let ignored ← Run.ofExcept id (ignoredPaths readRules (← get).tree codeDir)
      let place ← choosePlace given
      let copied ← tryCatch (copyAll config codeDir place.directory included ignored) (giveUp place)
      return { codeDir, place, copied }) := by
  cases given <;> rfl

/-- A run that gives up ends with the fault. -/
theorem outcome_giveUp (place : CopyPlace) (fault : RunFault) :
    ((giveUp place fault).outcome world).1 = .error fault := by
  unfold giveUp
  cases fault.ofTree with
  | false => rfl
  | true => cases place <;> rfl

/-- A found file that takes part is copied before the others. -/
theorem outcome_copyFound_cons {middle : World} {relative shown : String}
    {rest others : List String}
    (picked : includedPath world.tree included (codeDir / Path.ofString relative) = .ok (some shown))
    (kept : ignored relative = false)
    (copied : (copyInto (codeDir / Path.ofString relative)
      (target / Path.ofString relative)).outcome world = (.ok (), middle))
    (later : (copyFound codeDir target included ignored rest).outcome middle = (.ok others, last)) :
    (copyFound codeDir target included ignored (relative :: rest)).outcome world =
      (.ok (relative :: others), last) := by
  rw [copyFound, Run.outcome_bind_of_ok (Run.outcome_look_of_ok picked), kept]
  simp only [Option.isSome_some, Bool.not_false, Bool.and_self, if_true]
  rw [Run.outcome_bind_of_ok copied, Run.outcome_bind_of_ok later]
  rfl

/-- The one file that is found is copied if it takes part. -/
theorem outcome_copyAll_single {config : Config} {relative shown : String}
    (searched : world.tree.search codeDir config.files = .ok [relative])
    (picked : includedPath world.tree included (codeDir / Path.ofString relative) = .ok (some shown))
    (kept : ignored relative = false)
    (copied : (copyInto (codeDir / Path.ofString relative)
      (target / Path.ofString relative)).outcome world = (.ok (), last)) :
    (copyAll config codeDir target included ignored).outcome world = (.ok [relative], last) := by
  rw [copyAll, Run.outcome_bind_of_ok (Run.outcome_get _), searched,
    Run.outcome_bind_of_ok (Run.outcome_ofExcept _ _ _)]
  exact outcome_copyFound_cons picked kept copied (Run.outcome_pure _ _)

/-- The one file that was copied is put back, and the copies are removed. -/
theorem outcome_restore_single {directory : Path} {relative : String} {tree : Tree}
    (copied : (copyInto (directory / Path.ofString relative)
      (codeDir / Path.ofString relative)).outcome world = (.ok (), last))
    (removed : last.tree.discardAll directory = .ok tree) :
    (restore { codeDir, place := .scratch directory, copied := [relative] }).outcome world =
      (.ok (), { last with tree }) := by
  rw [restore]
  simp only [List.forM]
  rw [Run.outcome_bind_of_ok
      (Run.outcome_bind_eq_ok.2 ⟨(), last, copied, Run.outcome_pure _ _⟩),
    Run.outcome_change_of_ok removed]

/-- A snapshot is made exactly if each of the steps succeeds. -/
theorem outcome_take_eq_ok {config : Config} {given : Option Path} {snapshot : Snapshot} :
    (take readRules config included given).outcome world = (.ok snapshot, last) ↔
      ∃ ignored start,
        snapshot.restored = false ∧ config.codeDir world.tree = .ok snapshot.codeDir ∧
          ignoredPaths readRules world.tree snapshot.codeDir = .ok ignored ∧
          (choosePlace given).outcome world = (.ok snapshot.place, start) ∧
          (copyAll config snapshot.codeDir snapshot.place.directory included ignored).outcome start =
            (.ok snapshot.copied, last) := by
  rw [take_eq]
  constructor
  · intro ran
    obtain ⟨codeDir, _, question, ran⟩ := Run.outcome_bind_eq_ok.1 ran
    obtain ⟨coded, rfl⟩ := Run.outcome_look_eq_ok.1 question
    rw [Run.outcome_bind_of_ok (Run.outcome_get _)] at ran
    obtain ⟨ignored, _, reading, ran⟩ := Run.outcome_bind_eq_ok.1 ran
    obtain ⟨ruled, rfl⟩ := Run.outcome_ofExcept_eq_ok.1 reading
    obtain ⟨place, start, chosen, ran⟩ := Run.outcome_bind_eq_ok.1 ran
    obtain ⟨copied, _, tried, same⟩ := Run.outcome_bind_eq_ok.1 ran
    cases same
    refine ⟨ignored, start, rfl, coded, ruled, chosen, ?_⟩
    rw [Run.outcome_tryCatch] at tried
    split at tried
    · rename_i ran
      rw [ran, tried]
    · rename_i fault later ran
      have failed : ((giveUp place fault).outcome later).1 = .error fault :=
        outcome_giveUp place fault
      rw [tried] at failed
      cases failed
  · rintro ⟨ignored, start, kept, coded, ruled, chosen, copied⟩
    obtain ⟨codeDir, place, rows, restored⟩ := snapshot
    cases kept
    rw [Run.outcome_bind_of_ok (Run.outcome_look_of_ok coded),
      Run.outcome_bind_of_ok (Run.outcome_get _),
      Run.outcome_bind_of_ok (Run.outcome_ofExcept_eq_ok.2 ⟨ruled, rfl⟩),
      Run.outcome_bind_of_ok chosen]
    refine Run.outcome_bind_eq_ok.2 ⟨rows, last, ?_, rfl⟩
    rw [Run.outcome_tryCatch, copied]

/-- The path of the next directory of the run's own. -/
def nextScratch (world : World) : Path :=
  world.scratch / { names := ["backup-" ++ toString world.serial] }

/-- A directory of the run's own is a new one in the scratch directory, and its name is used up
also if it cannot be made. -/
theorem outcome_makeScratch (world : World) :
    makeScratch.outcome world =
      match world.tree.makeDirectory (nextScratch world) with
      | .error fault => (.error (.file fault), { world with serial := world.serial + 1 })
      | .ok tree => (.ok (nextScratch world), { world with tree, serial := world.serial + 1 }) := by
  rw [makeScratch, Run.outcome_bind_of_ok (Run.outcome_freshPath _ _), ← nextScratch,
    Run.outcome_bind, Run.outcome_change]
  cases world.tree.makeDirectory (nextScratch world) <;> rfl

/-- A directory of the run's own is a new one in the scratch directory. -/
theorem outcome_makeScratch_eq_ok {directory : Path} :
    makeScratch.outcome world = (.ok directory, last) ↔
      directory = nextScratch world ∧ ∃ tree, world.tree.makeDirectory directory = .ok tree ∧
        last = { world with tree, serial := world.serial + 1 } := by
  rw [outcome_makeScratch]
  cases made : world.tree.makeDirectory (nextScratch world) with
  | error fault =>
    simp only [Prod.mk.injEq, reduceCtorEq, false_and, false_iff]
    rintro ⟨rfl, tree, same, -⟩
    rw [made] at same
    cases same
  | ok tree =>
    constructor
    · rintro ⟨⟩
      exact ⟨rfl, tree, made, rfl⟩
    · rintro ⟨rfl, other, same, rfl⟩
      rw [made] at same
      cases same
      rfl

/-- The copies go to the given directory, or to a new one in the scratch directory. -/
theorem outcome_choosePlace_eq_ok {given : Option Path} {place : CopyPlace} :
    (choosePlace given).outcome world = (.ok place, last) ↔
      (∃ directory, given = some directory ∧ place = .given directory ∧ world = last) ∨
      ∃ directory, given = none ∧ place = .scratch directory ∧
        makeScratch.outcome world = (.ok directory, last) := by
  cases given with
  | some directory => simp [choosePlace, eq_comm]
  | none =>
    rw [choosePlace, Run.outcome_map]
    rcases makeScratch.outcome world with ⟨fault | made, later⟩
    · simp [Except.map]
    · simp [Except.map, eq_comm]

/-- Without an ignore file nothing is ignored. -/
theorem ignoredPaths_of_absent {tree : Tree}
    (absent : tree.isFile (codeDir / { names := [ignoreName] }) = .ok false) :
    ignoredPaths readRules tree codeDir = .ok fun _ => false := by
  rw [ignoredPaths, absent]
  rfl

/-- Whether a tree without links has the fixtures of a suite in a directory, and no ignore file with
them. -/
structure Houses (tree : Tree) (config : Config) (base : Place) : Prop
    extends tree.Houses config base where
  /-- No ignore file stands in the directory. -/
  unruled : tree.Stands (.ofNames (base ++ [ignoreName])) none

instance (tree : Tree) (config : Config) (base : Place) : Decidable (Houses tree config base) :=
  decidable_of_iff
    (tree.Houses config base ∧ tree.Stands (.ofNames (base ++ [ignoreName])) none)
    ⟨fun ⟨houses, unruled⟩ => ⟨houses, unruled⟩, fun houses => ⟨houses.toHouses, houses.unruled⟩⟩

/-- Nothing in it is ignored. -/
theorem Houses.ignoredPaths_eq {tree : Tree} {config : Config} {base : Place}
    (houses : Houses tree config base) (readRules : IgnoreReader) :
    ignoredPaths readRules tree (.ofNames base) = .ok fun _ => false := by
  have level : Tree.Level (base ++ [ignoreName]) :=
    Tree.level_concat.2 ⟨houses.level, by decide, by decide⟩
  exact ignoredPaths_of_absent (Tree.isFile_of_absent houses.unlinked level houses.unruled)

/-- Reading the ignore file does not fail as a search does. -/
theorem failsOnly_ignoredPaths (readRules : IgnoreReader) (tree : Tree) (codeDir : Path) :
    Runs.FailsOnly (fun fault => ∀ unread, fault ≠ .search unread)
      (ignoredPaths readRules tree codeDir) := by
  unfold ignoredPaths
  refine .bind (.mapError (by simp) _) fun there => ?_
  split
  · exact .bind (.mapError (by simp) _) fun text => .mapError (by simp) _
  · exact .ok _

/-- Where no directory of the run's own can be made the tree is left as it was. -/
theorem outcome_choosePlace_eq_error {given : Option Path} {fault : RunFault}
    (failed : (choosePlace given).outcome world = (.error fault, last)) :
    (∃ other, fault = .file other) ∧ last.tree = world.tree := by
  cases given with
  | some directory => cases failed
  | none =>
    rw [choosePlace, Run.outcome_map, outcome_makeScratch] at failed
    cases made : world.tree.makeDirectory (nextScratch world) with
    | error other =>
      rw [made] at failed
      cases failed
      exact ⟨⟨other, rfl⟩, rfl⟩
    | ok tree =>
      rw [made] at failed
      cases failed

/-- A snapshot fails before anything is changed, or because the fixtures are not found or copied. -/
theorem outcome_take_eq_error {config : Config} {given : Option Path} {fault : RunFault}
    (failed : (take readRules config included given).outcome world = (.error fault, last)) :
    ((∀ unread, fault ≠ .search unread) ∧ last.tree = world.tree) ∨
      ∃ codeDir ignored place start later, config.codeDir world.tree = .ok codeDir ∧
        (choosePlace given).outcome world = (.ok place, start) ∧
        (copyAll config codeDir place.directory included ignored).outcome start =
          (.error fault, later) ∧ last = ((giveUp place fault).outcome later).2 := by
  rw [take_eq] at failed
  rcases Run.outcome_bind_eq_error.1 failed with looked | ⟨codeDir, _, looked, failed⟩
  · obtain ⟨other, -, rfl, rfl⟩ := Run.outcome_look_eq_error.1 looked
    exact .inl ⟨by simp, rfl⟩
  obtain ⟨coded, rfl⟩ := Run.outcome_look_eq_ok.1 looked
  rw [Run.outcome_bind_of_ok (Run.outcome_get _)] at failed
  rcases Run.outcome_bind_eq_error.1 failed with read | ⟨ignored, _, read, failed⟩
  · rw [Run.outcome_ofExcept] at read
    cases ruled : ignoredPaths readRules world.tree codeDir with
    | ok ignored =>
      rw [ruled] at read
      cases read
    | error other =>
      rw [ruled] at read
      cases read
      exact .inl ⟨failsOnly_ignoredPaths readRules world.tree codeDir _ ruled, rfl⟩
  obtain ⟨-, rfl⟩ := Run.outcome_ofExcept_eq_ok.1 read
  rcases Run.outcome_bind_eq_error.1 failed with chosen | ⟨place, start, chosen, failed⟩
  · obtain ⟨⟨other, rfl⟩, same⟩ := outcome_choosePlace_eq_error chosen
    exact .inl ⟨by simp, same⟩
  rcases Run.outcome_bind_eq_error.1 failed with tried | ⟨copied, _, tried, done⟩
  · rw [Run.outcome_tryCatch] at tried
    split at tried
    · cases tried
    · rename_i other later ran
      have same : ((giveUp place other).outcome later).1 = .error other := outcome_giveUp place other
      rw [tried] at same
      cases same
      exact .inr ⟨codeDir, ignored, place, start, later, coded, chosen, ran, by rw [tried]⟩
  · cases done

/-- What is left when the fixtures are not found or copied. -/
theorem outcome_take_of_failed {config : Config} {given : Option Path} {place : CopyPlace}
    {start later : World} {fault : RunFault} (coded : config.codeDir world.tree = .ok codeDir)
    (ruled : ignoredPaths readRules world.tree codeDir = .ok ignored)
    (chosen : (choosePlace given).outcome world = (.ok place, start))
    (ran : (copyAll config codeDir place.directory included ignored).outcome start =
      (.error fault, later)) :
    (take readRules config included given).outcome world =
      (.error fault, ((giveUp place fault).outcome later).2) := by
  rw [take_eq, Run.outcome_bind_of_ok (Run.outcome_look_of_ok coded),
    Run.outcome_bind_of_ok (Run.outcome_get _),
    Run.outcome_bind_of_ok (Run.outcome_ofExcept_eq_ok.2 ⟨ruled, rfl⟩),
    Run.outcome_bind_of_ok chosen]
  refine Run.outcome_bind_of_error ?_ _
  rw [Run.outcome_tryCatch, ran]
  exact Prod.ext (outcome_giveUp place fault) rfl

/-- A directory of the run's own is made where nothing stands, if there are no links. -/
theorem outcome_choosePlace_of_stands (unlinked : world.tree.Unlinked)
    (level : Tree.Level (nextScratch world).names)
    (free : world.tree.Stands (nextScratch world) none) :
    (choosePlace none).outcome world = (.ok (.scratch (nextScratch world)),
      { world with
        tree := world.tree.set (nextScratch world).names .directory
        serial := world.serial + 1 }) :=
  outcome_choosePlace_eq_ok.2 (.inr ⟨_, rfl, rfl, outcome_makeScratch_eq_ok.2 ⟨rfl, _,
    (Tree.makeDirectory_eq_ok_iff_stands unlinked level).2 ⟨free, rfl⟩, rfl⟩⟩)

/-- A snapshot of the one file that was found, where nothing is ignored. -/
theorem outcome_take_single {config : Config} {base : Place} (relative shown : String)
    (fresh held : Tree) (houses : Houses world.tree config base)
    (level : Tree.Level (nextScratch world).names)
    (free : world.tree.Stands (nextScratch world) none)
    (made : fresh = world.tree.set (nextScratch world).names .directory)
    (searched : fresh.search (.ofNames base) config.files = .ok [relative])
    (picked : includedPath fresh included (.ofNames base / Path.ofString relative) =
      .ok (some shown))
    (entered : fresh.makeDirectories (nextScratch world / Path.ofString relative).parent = .ok fresh)
    (copied : fresh.copy (.ofNames base / Path.ofString relative)
      (nextScratch world / Path.ofString relative) = .ok held) :
    (take readRules config included none).outcome world =
      (.ok { codeDir := .ofNames base, place := .scratch (nextScratch world), copied := [relative] },
        { world with tree := held, serial := world.serial + 1 }) := by
  subst made
  exact outcome_take_eq_ok.2 ⟨_, _, rfl, houses.codeDir_eq, houses.ignoredPaths_eq readRules,
    outcome_choosePlace_of_stands houses.unlinked level free,
    outcome_copyAll_single searched picked rfl
      (outcome_copyInto_eq_ok.2 ⟨_, held, entered, copied, rfl⟩)⟩

/-- Choosing where the copies go extends the tree. -/
theorem extends_choosePlace {given : Option Path} {place : CopyPlace}
    (ran : (choosePlace given).outcome world = (.ok place, last)) :
    world.tree.Extends last.tree := by
  rcases outcome_choosePlace_eq_ok.1 ran with ⟨_, -, -, rfl⟩ | ⟨directory, -, -, fresh⟩
  · exact .refl _
  · obtain ⟨-, tree, made, rfl⟩ := outcome_makeScratch_eq_ok.1 fresh
    exact Tree.extends_makeDirectory made

/-- A snapshot that is made extends the tree, and in that tree each copied file resolves to an
included path. -/
theorem extends_take {config : Config} {given : Option Path} {snapshot : Snapshot}
    (ran : (take readRules config included given).outcome world = (.ok snapshot, last)) :
    world.tree.Extends last.tree ∧
      ∀ relative ∈ snapshot.copied, ∃ resolved,
        last.tree.resolveStrict (snapshot.codeDir / Path.ofString relative) = .ok resolved ∧
          isIncluded included resolved.toString = true := by
  obtain ⟨ignored, start, -, -, -, chosen, copied⟩ := outcome_take_eq_ok.1 ran
  rw [copyAll, Run.outcome_bind_of_ok (Run.outcome_get _)] at copied
  obtain ⟨found, _, searching, copied⟩ := Run.outcome_bind_eq_ok.1 copied
  obtain ⟨-, rfl⟩ := Run.outcome_ofExcept_eq_ok.1 searching
  obtain ⟨grown, each⟩ := extends_copyFound copied
  exact ⟨(extends_choosePlace chosen).trans grown, each⟩

end Snapshot

end LintBench
