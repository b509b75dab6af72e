import LintBench.Proofs.Files.Growth
import LintBench.Proofs.Run.Outcome
import LintBench.Suite.Verdict

/-!
# How fixtures are changed

Between the snapshot and putting the fixtures back three things are done: what is
needed to start the script is looked up and written, the script is run, and the
fixtures are compared with their golden files. What the script finds is what was
there before, its own text, and the directory where it is to write; what it leaves
is there when the fixtures are put back.
-/

namespace LintBench.Run

/-- Get ready to start the script: what was the same as its golden file before, the file with the
text of the script, and how it is started. -/
def prepared (config : Config) (given : Option Path) (snapshot : Snapshot) :
    Run (List String × Path × Invocation) := do
  let codeDir ← look config.codeDir
  let excluded ← look config.excludedPaths
  let identical ← look fun tree => snapshot.identicalFixtures tree codeDir excluded
  let outputDir := given.getD config.root
  change (·.makeDirectories outputDir)
  let outputPath ← look (·.resolveStrict outputDir)
  let codeDir ← look config.codeDir
  let codePath ← look (·.resolveStrict codeDir)
  let file ← freshPath "script-"
  change (·.store file (Text.encodeUtf8 config.autofix.body))
  let environment := Keyed.overlay (← get).environment
    (Keyed.set [(outputDirVariable, outputPath.toString)] codePathVariable codePath.toString)
  return (identical, file, {
    program := config.autofix.interpreter
    arguments := config.autofix.arguments ++ [file.toString]
    directory := config.root
    environment
    input := []
    output := if config.autofix.interactive then .first else .second })

/-- Start the script, and remove the file with its text whatever becomes of it. -/
def started (interpret : Interpreter) (file : Path) (invocation : Invocation) : Run Unit :=
  andFinally (do let _ ← execute interpret invocation) (discardQuietly file)

/-- Compare the fixtures with their golden files. -/
def judged (config : Config) (snapshot : Snapshot) (identical : List String) :
    Run AutofixResult := do
  let codeDir ← look config.codeDir
  let excluded ← look config.excludedPaths
  let diffs ← look fun tree => snapshot.goldenDiffs tree codeDir excluded
  return { diffs, identical }

/-- What is done between the snapshot and putting the fixtures back: they are changed and compared
with their golden files. -/
def tryChanges (interpret : Interpreter) (config : Config) (given : Option Path)
    (snapshot : Snapshot) : Run AutofixResult := do
  let (identical, file, invocation) ← prepared config given snapshot
  started interpret file invocation
  judged config snapshot identical

variable {interpret : Interpreter} {config : Config} {given : Option Path} {snapshot : Snapshot}
  {world later : World}

/-- Fixtures are changed after a snapshot was made, and put back whatever becomes of that. -/
theorem autofix_eq (tools : Tools) (config : Config) (included : List String)
    (given : Option Path) :
    autofix tools config included given = (do
      let snapshot ← Snapshot.take tools.readRules config included given
      andFinally (tryChanges tools.interpret config given snapshot) snapshot.restore) := by
  simp only [autofix, tryChanges, prepared, script, started, judged, bind_assoc, pure_bind]

/-- The tree as the script leaves it; if the script is not started, the tree as it stands then. -/
def leftByScript (interpret : Interpreter) (config : Config) (given : Option Path)
    (snapshot : Snapshot) (world : World) : Tree :=
  match (prepared config given snapshot).outcome world with
  | (.ok (_, _, invocation), begun) => ((interpret invocation).outcome begun).2.tree
  | (.error _, begun) => begun.tree

/-- Judging changes nothing. -/
theorem outcome_judged_snd (identical : List String) :
    ((judged config snapshot identical).outcome world).2 = world := by
  have keeps : Keeps (judged config snapshot identical) (· = world) := by
    refine .bind (.look _) fun codeDir => ?_
    refine .bind (.look _) fun excluded => ?_
    exact .bind (.look _) fun diffs => .pure _
  exact keeps world rfl

/-- What comes of starting a script that has to succeed. -/
theorem outcome_execute (invocation : Invocation) :
    ((execute interpret invocation).outcome world).2 = ((interpret invocation).outcome world).2 := by
  rw [execute, outcome_bind]
  split
  · rename_i ending later ran
    rw [ran]
    split <;> rfl
  · rename_i fault later ran
    rw [ran]

/-- The tree after the script was run and its text removed. -/
theorem tree_started (file : Path) (invocation : Invocation) :
    ((started interpret file invocation).outcome world).2.tree =
      let ended := ((interpret invocation).outcome world).2.tree
      (ended.discard file).toOption.getD ended := by
  rw [started, outcome_andFinally_snd, discardQuietly, outcome_modify, bind_pure_comp, outcome_map,
    outcome_execute]

/-- The tree after the changes: what the script leaves, without its text. -/
theorem tree_tryChanges : ((tryChanges interpret config given snapshot).outcome world).2.tree =
    match (prepared config given snapshot).outcome world with
    | (.ok (_, file, invocation), begun) =>
      let ended := ((interpret invocation).outcome begun).2.tree
      (ended.discard file).toOption.getD ended
    | (.error _, begun) => begun.tree := by
  rw [tryChanges, outcome_bind]
  rcases (prepared config given snapshot).outcome world with
    ⟨fault | ⟨identical, file, invocation⟩, begun⟩
  · rfl
  · simp only [← tree_started]
    rw [outcome_bind]
    split
    · rename_i ran
      rw [outcome_judged_snd, ran]
    · rename_i ran
      rw [ran]

/-- Whether a tree is the one before a script is started: at most the directory where it is to write
was made. -/
def IsReady (config : Config) (given : Option Path) (before ready : Tree) : Prop :=
  ready = before ∨ before.makeDirectories (given.getD config.root) = .ok ready

/-- A tree that was made ready has at most more directories. -/
theorem IsReady.addsDirectories {before ready : Tree} (made : IsReady config given before ready) :
    before.AddsDirectories ready := by
  rcases made with rfl | made
  · exact .refl _
  · exact Tree.addsDirectories_makeDirectories made

/-- The tree when a script is started is the one before with the text of the script. If the script
is not started, its text was not written. -/
theorem tree_prepared {result : Except RunFault (List String × Path × Invocation)}
    (ran : (prepared config given snapshot).outcome world = (result, later)) :
    ∃ ready, IsReady config given world.tree ready ∧
      match result with
      | .ok (_, file, _) =>
        file = world.scratch / { names := ["script-" ++ toString world.serial] } ∧
          ready.store file (Text.encodeUtf8 config.autofix.body) = .ok later.tree
      | .error _ => later.tree = ready := by
  have first : IsReady config given world.tree world.tree := .inl rfl
  rw [prepared, outcome_look_bind] at ran
  split at ran
  case h_2 => exact ⟨_, first, by cases ran; rfl⟩
  rw [outcome_look_bind] at ran
  split at ran
  case h_2 => exact ⟨_, first, by cases ran; rfl⟩
  rw [outcome_look_bind] at ran
  split at ran
  case h_2 => exact ⟨_, first, by cases ran; rfl⟩
  rw [outcome_change_bind] at ran
  split at ran
  case h_2 => exact ⟨_, first, by cases ran; rfl⟩
  rename_i ready made
  refine ⟨ready, .inr made, ?_⟩
  rw [outcome_look_bind] at ran
  split at ran
  case h_2 => cases ran; rfl
  rw [outcome_look_bind] at ran
  split at ran
  case h_2 => cases ran; rfl
  rw [outcome_look_bind] at ran
  split at ran
  case h_2 => cases ran; rfl
  rw [outcome_bind_of_ok (outcome_freshPath _ _), outcome_change_bind] at ran
  split at ran
  case h_2 => cases ran; rfl
  rename_i stored
  cases ran
  exact ⟨rfl, stored⟩

variable (given world) in
/-- A script is started if all that it needs is there. -/
theorem outcome_prepared_of_ok {excluded same : List String}
    {fixturesDir outputPath codeDir codePath : Path} {ready stored : Tree}
    (housed : config.codeDir world.tree = .ok fixturesDir)
    (excludes : config.excludedPaths world.tree = .ok excluded)
    (identical : snapshot.identicalFixtures world.tree fixturesDir excluded = .ok same)
    (made : world.tree.makeDirectories (given.getD config.root) = .ok ready)
    (reached : ready.resolveStrict (given.getD config.root) = .ok outputPath)
    (coded : config.codeDir ready = .ok codeDir)
    (resolved : ready.resolveStrict codeDir = .ok codePath)
    (store : ready.store (world.scratch / { names := ["script-" ++ toString world.serial] })
      (Text.encodeUtf8 config.autofix.body) = .ok stored) :
    ∃ invocation begun, begun.tree = stored ∧
      (prepared config given snapshot).outcome world =
        (.ok (same, world.scratch / { names := ["script-" ++ toString world.serial] }, invocation),
          begun) := by
  rw [prepared, outcome_bind_of_ok (outcome_look_of_ok housed),
    outcome_bind_of_ok (outcome_look_of_ok excludes),
    outcome_bind_of_ok (outcome_look_of_ok identical),
    outcome_bind_of_ok (outcome_change_of_ok made), outcome_bind_of_ok (outcome_look_of_ok reached),
    outcome_bind_of_ok (outcome_look_of_ok coded), outcome_bind_of_ok (outcome_look_of_ok resolved),
    outcome_bind_of_ok (outcome_freshPath _ _), outcome_bind_of_ok (outcome_change_of_ok store)]
  exact ⟨_, _, rfl, rfl⟩

/-- What was the same as its golden file is looked up before anything is changed. -/
theorem identical_of_prepared {identical : List String} {file : Path} {invocation : Invocation}
    (ran : (prepared config given snapshot).outcome world =
      (.ok (identical, file, invocation), later)) :
    ∃ codeDir excluded, config.codeDir world.tree = .ok codeDir ∧
      config.excludedPaths world.tree = .ok excluded ∧
      snapshot.identicalFixtures world.tree codeDir excluded = .ok identical := by
  obtain ⟨codeDir, _, first, ran⟩ := outcome_bind_eq_ok.1 ran
  obtain ⟨coded, rfl⟩ := outcome_look_eq_ok.1 first
  obtain ⟨excluded, _, second, ran⟩ := outcome_bind_eq_ok.1 ran
  obtain ⟨excludes, rfl⟩ := outcome_look_eq_ok.1 second
  obtain ⟨same, _, third, ran⟩ := outcome_bind_eq_ok.1 ran
  obtain ⟨compared, rfl⟩ := outcome_look_eq_ok.1 third
  obtain ⟨_, _, -, ran⟩ := outcome_bind_eq_ok.1 ran
  obtain ⟨_, _, -, ran⟩ := outcome_bind_eq_ok.1 ran
  obtain ⟨_, _, -, ran⟩ := outcome_bind_eq_ok.1 ran
  obtain ⟨_, _, -, ran⟩ := outcome_bind_eq_ok.1 ran
  obtain ⟨_, _, -, ran⟩ := outcome_bind_eq_ok.1 ran
  obtain ⟨_, _, -, ran⟩ := outcome_bind_eq_ok.1 ran
  obtain ⟨_, _, -, ran⟩ := outcome_bind_eq_ok.1 ran
  cases ran
  exact ⟨codeDir, excluded, coded, excludes, compared⟩

/-- What a run is judged by: the fixtures before the changes, and their differences after them. -/
theorem outcome_tryChanges_eq_ok {result : AutofixResult}
    (ran : (tryChanges interpret config given snapshot).outcome world = (.ok result, later)) :
    (∃ codeDir excluded, config.codeDir world.tree = .ok codeDir ∧
      config.excludedPaths world.tree = .ok excluded ∧
      snapshot.identicalFixtures world.tree codeDir excluded = .ok result.identical) ∧
    ∃ codeDir excluded, config.codeDir later.tree = .ok codeDir ∧
      config.excludedPaths later.tree = .ok excluded ∧
      snapshot.goldenDiffs later.tree codeDir excluded = .ok result.diffs := by
  obtain ⟨⟨identical, file, invocation⟩, begun, first, ran⟩ := outcome_bind_eq_ok.1 ran
  obtain ⟨_, ended, -, ran⟩ := outcome_bind_eq_ok.1 ran
  obtain ⟨codeDir, _, found, ran⟩ := outcome_bind_eq_ok.1 ran
  obtain ⟨coded, rfl⟩ := outcome_look_eq_ok.1 found
  obtain ⟨excluded, _, looked, ran⟩ := outcome_bind_eq_ok.1 ran
  obtain ⟨excludes, rfl⟩ := outcome_look_eq_ok.1 looked
  obtain ⟨diffs, _, compared, ran⟩ := outcome_bind_eq_ok.1 ran
  obtain ⟨differ, rfl⟩ := outcome_look_eq_ok.1 compared
  cases ran
  exact ⟨identical_of_prepared first, codeDir, excluded, coded, excludes, differ⟩

/-- What a run is judged by if the script succeeds and the fixtures can be read. -/
theorem outcome_tryChanges_of_ok {same excluded : List String} {diffs : Keyed (List String)}
    {codeDir file : Path} {invocation : Invocation} {begun ended : World} {kept : Text.Bytes}
    {tree : Tree}
    (ready : (prepared config given snapshot).outcome world = (.ok (same, file, invocation), begun))
    (ran : (interpret invocation).outcome begun = (.ok { status := 0, kept }, ended))
    (removed : ended.tree.discard file = .ok tree)
    (coded : config.codeDir tree = .ok codeDir)
    (excludes : config.excludedPaths tree = .ok excluded)
    (differ : snapshot.goldenDiffs tree codeDir excluded = .ok diffs) :
    ((tryChanges interpret config given snapshot).outcome world).1 =
      .ok { diffs, identical := same } := by
  have executed : (execute interpret invocation).outcome begun = (.ok kept, ended) := by
    rw [execute, outcome_bind_of_ok ran]
    rfl
  have completed : (started interpret file invocation).outcome begun =
      (.ok (), { ended with tree }) := by
    rw [started, outcome_andFinally, outcome_bind_of_ok executed, discardQuietly]
    simp only [outcome_pure, outcome_modify, removed]
    rfl
  rw [tryChanges, outcome_bind_of_ok ready]
  simp only
  rw [outcome_bind_of_ok completed, judged, outcome_bind_of_ok (outcome_look_of_ok coded),
    outcome_bind_of_ok (outcome_look_of_ok excludes),
    outcome_bind_of_ok (outcome_look_of_ok differ)]
  rfl

/-- A run that gives a result gives that of the changes. -/
theorem outcome_autofix_fst {tools : Tools} {included : List String} {held : World}
    {result : AutofixResult}
    (taken : (Snapshot.take tools.readRules config included given).outcome world =
      (.ok snapshot, held))
    (ended : ((autofix tools config included given).outcome world).1 = .ok result) :
    ((tryChanges tools.interpret config given snapshot).outcome held).1 = .ok result := by
  rw [autofix_eq, outcome_bind_of_ok taken, outcome_andFinally] at ended
  split at ended
  · exact ended
  · cases ended

variable (config given snapshot world) in
/-- If a script changes nothing, nothing is changed before the fixtures are judged: the directory
where it is to write is there, and the text of the script goes where nothing stands. -/
theorem tree_tryChanges_of_idle {place : Place}
    (idle : ∀ invocation begun, ((interpret invocation).outcome begun).2.tree = begun.tree)
    (there : world.tree.makeDirectories (given.getD config.root) = .ok world.tree)
    (located : world.tree.locate false
      (world.scratch / { names := ["script-" ++ toString world.serial] }) = .ok ⟨place, none⟩)
    (free : ∀ entry ∈ world.tree.nodes, ¬ place <+: entry.1) :
    ((tryChanges interpret config given snapshot).outcome world).2.tree = world.tree := by
  have still {ready : Tree} (made : IsReady config given world.tree ready) : ready = world.tree := by
    rcases made with same | made
    · exact same
    · rw [there] at made
      exact (Except.ok.inj made).symm
  rw [tree_tryChanges]
  rcases ran : (prepared config given snapshot).outcome world with
    ⟨fault | ⟨identical, file, invocation⟩, begun⟩
  · obtain ⟨ready, made, same⟩ := tree_prepared ran
    exact same.trans (still made)
  · obtain ⟨ready, made, rfl, stored⟩ := tree_prepared ran
    rw [still made] at stored
    simp only [idle, Tree.discard_store located free stored]
    rfl

end LintBench.Run
