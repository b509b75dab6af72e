import LintBench.Proofs.Runs
import LintBench.Run.World

/-!
# What becomes of a run

A step of a run, started in a world, gives a value or a fault and leaves a world.
Each way to put steps together is told here by what becomes of its parts, so that
nothing else has to be known about how runs are made.
-/

namespace LintBench.Run

variable {α β : Type}

/-- What a step gives in a world, and the world after it. -/
def outcome (step : Run α) (world : World) : Except RunFault α × World := step.run.run world

/-- A value is given in the same world. -/
@[simp] theorem outcome_pure (value : α) (world : World) :
    outcome (pure value) world = (.ok value, world) := rfl

/-- A fault is given in the same world. -/
@[simp] theorem outcome_throw (fault : RunFault) (world : World) :
    outcome (throw fault : Run α) world = (.error fault, world) := rfl

/-- The world is given in the same world. -/
@[simp] theorem outcome_get (world : World) : outcome get world = (.ok world, world) := rfl

/-- The world is changed. -/
@[simp] theorem outcome_modify (change : World → World) (world : World) :
    outcome (modify change : Run PUnit) world = (.ok ⟨⟩, change world) := rfl

/-- The second of two steps starts where the first one ended, unless that is a fault. -/
theorem outcome_bind (step : Run α) (next : α → Run β) (world : World) :
    outcome (step >>= next) world =
      match outcome step world with
      | (.ok value, later) => outcome (next value) later
      | (.error fault, later) => (.error fault, later) := by
  simp only [outcome, bind, ExceptT.bind, ExceptT.mk, ExceptT.run, StateT.bind, StateT.run]
  cases ran : step world with
  | mk result later => cases result <;> rfl

/-- Two steps one after the other succeed exactly if both do. -/
theorem outcome_bind_eq_ok {step : Run α} {next : α → Run β} {world last : World} {result : β} :
    outcome (step >>= next) world = (.ok result, last) ↔
      ∃ value later, outcome step world = (.ok value, later) ∧
        outcome (next value) later = (.ok result, last) := by
  rw [outcome_bind]
  rcases outcome step world with ⟨fault | value, later⟩
  · simp
  · constructor
    · exact fun ran => ⟨value, later, rfl, ran⟩
    · rintro ⟨_, _, same, ran⟩
      cases same
      exact ran

/-- Two steps one after the other fail exactly if the first one does, or the second one after it. -/
theorem outcome_bind_eq_error {step : Run α} {next : α → Run β} {world last : World}
    {fault : RunFault} :
    outcome (step >>= next) world = (.error fault, last) ↔
      outcome step world = (.error fault, last) ∨
        ∃ value later, outcome step world = (.ok value, later) ∧
          outcome (next value) later = (.error fault, last) := by
  rw [outcome_bind]
  rcases outcome step world with ⟨other | value, later⟩
  · simp
  · simp only [Prod.mk.injEq, reduceCtorEq, false_and, Except.ok.injEq, false_or]
    constructor
    · exact fun ran => ⟨value, later, ⟨rfl, rfl⟩, ran⟩
    · rintro ⟨_, _, ⟨rfl, rfl⟩, ran⟩
      exact ran

/-- A step after one that succeeds starts where that one ended. -/
theorem outcome_bind_of_ok {step : Run α} {world later : World} {value : α}
    (ran : outcome step world = (.ok value, later)) (next : α → Run β) :
    outcome (step >>= next) world = outcome (next value) later := by
  rw [outcome_bind, ran]

/-- A step after one that fails is not carried out. -/
theorem outcome_bind_of_error {step : Run α} {world later : World} {fault : RunFault}
    (ran : outcome step world = (.error fault, later)) (next : α → Run β) :
    outcome (step >>= next) world = (.error fault, later) := by
  rw [outcome_bind, ran]

/-- What a step gives is changed, and the world is its world. -/
theorem outcome_map (change : α → β) (step : Run α) (world : World) :
    outcome (change <$> step) world =
      ((outcome step world).1.map change, (outcome step world).2) := by
  rw [← bind_pure_comp, outcome_bind]
  rcases outcome step world with ⟨fault | value, later⟩ <;> rfl

/-- What was found is given in the same world. -/
@[simp] theorem outcome_ofExcept {ε : Type} (wrap : ε → RunFault) (found : Except ε α)
    (world : World) : outcome (ofExcept wrap found) world = (found.mapError wrap, world) := by
  cases found <;> rfl

/-- What was found is given if it is a value. -/
theorem outcome_ofExcept_eq_ok {ε : Type} {wrap : ε → RunFault} {found : Except ε α}
    {world last : World} {value : α} :
    outcome (ofExcept wrap found) world = (.ok value, last) ↔ found = .ok value ∧ world = last := by
  rw [outcome_ofExcept, Prod.mk.injEq, Runs.mapError_eq_ok]

/-- The answer of the tree is given in the same world. -/
@[simp] theorem outcome_look (question : Tree → Except FileFault α) (world : World) :
    outcome (look question) world = ((question world.tree).mapError .file, world) := by
  simp [look, outcome_bind]

/-- Looking something up succeeds exactly if the tree answers, and changes nothing. -/
theorem outcome_look_eq_ok {question : Tree → Except FileFault α} {world last : World} {value : α} :
    outcome (look question) world = (.ok value, last) ↔
      question world.tree = .ok value ∧ world = last := by
  rw [outcome_look, Prod.mk.injEq, Runs.mapError_eq_ok]

/-- An answer of the tree is given in the same world. -/
theorem outcome_look_of_ok {question : Tree → Except FileFault α} {world : World} {value : α}
    (answer : question world.tree = .ok value) :
    outcome (look question) world = (.ok value, world) := by
  rw [outcome_look, answer]
  rfl

/-- A question that is not answered is a fault of a file. -/
theorem outcome_look_eq_error {question : Tree → Except FileFault α} {world last : World}
    {fault : RunFault} :
    outcome (look question) world = (.error fault, last) ↔
      ∃ other, question world.tree = .error other ∧ fault = .file other ∧ world = last := by
  rw [outcome_look]
  cases question world.tree <;> simp [Except.mapError, eq_comm]

/-- A step after a question is carried out if the tree answers. -/
theorem outcome_look_bind (question : Tree → Except FileFault α) (next : α → Run β)
    (world : World) :
    outcome (look question >>= next) world =
      match question world.tree with
      | .ok value => outcome (next value) world
      | .error fault => (.error (.file fault), world) := by
  rw [outcome_bind, outcome_look]
  cases question world.tree <;> rfl

/-- A change that fails leaves the world as it is. -/
@[simp] theorem outcome_change (act : Tree → Except FileFault Tree) (world : World) :
    outcome (change act) world =
      match act world.tree with
      | .ok tree => (.ok (), { world with tree })
      | .error fault => (.error (.file fault), world) := by
  simp only [change, outcome_bind, outcome_get, outcome_ofExcept]
  cases act world.tree <;> rfl

/-- A change succeeds exactly if the tree allows it, and only the tree is another one then. -/
theorem outcome_change_eq_ok {act : Tree → Except FileFault Tree} {world last : World}
    {done : Unit} :
    outcome (change act) world = (.ok done, last) ↔
      ∃ tree, act world.tree = .ok tree ∧ last = { world with tree } := by
  rw [outcome_change]
  cases act world.tree <;> simp [eq_comm]

/-- A step after a change is carried out if the tree allows the change. -/
theorem outcome_change_bind (act : Tree → Except FileFault Tree) (next : Unit → Run β)
    (world : World) :
    outcome (change act >>= next) world =
      match act world.tree with
      | .ok tree => outcome (next ()) { world with tree }
      | .error fault => (.error (.file fault), world) := by
  rw [outcome_bind, outcome_change]
  cases act world.tree <;> rfl

/-- The tree is changed. -/
theorem outcome_change_of_ok {act : Tree → Except FileFault Tree} {world : World} {tree : Tree}
    (acted : act world.tree = .ok tree) :
    outcome (change act) world = (.ok (), { world with tree }) := by
  rw [outcome_change, acted]

/-- A name is made up, and counted. -/
@[simp] theorem outcome_freshPath (start : String) (world : World) :
    outcome (freshPath start) world =
      (.ok (world.scratch / { names := [start ++ toString world.serial] }),
        { world with serial := world.serial + 1 }) := rfl

/-- A handler starts where the fault left the world. -/
theorem outcome_tryCatch (step : Run α) (handle : RunFault → Run α) (world : World) :
    outcome (tryCatch step handle) world =
      match outcome step world with
      | (.ok value, later) => (.ok value, later)
      | (.error fault, later) => outcome (handle fault) later := by
  simp only [outcome, tryCatch, tryCatchThe, MonadExceptOf.tryCatch, ExceptT.tryCatch,
    ExceptT.mk, ExceptT.run, StateT.run, bind, StateT.bind]
  cases ran : step world with
  | mk result later => cases result <;> rfl

/-- The action starts where the step left the world, and its fault outweighs that of the step. -/
theorem outcome_andFinally (step : Run α) (action : Run Unit) (world : World) :
    outcome (andFinally step action) world =
      match outcome action (outcome step world).2 with
      | (.ok _, last) => ((outcome step world).1, last)
      | (.error fault, last) => (.error fault, last) := by
  have lifted : outcome (ExceptT.lift step.run : Run (Except RunFault α)) world =
      (.ok (outcome step world).1, (outcome step world).2) := rfl
  rw [andFinally, outcome_bind, lifted]
  simp only [outcome_bind]
  rcases outcome action (outcome step world).2 with ⟨fault | value, last⟩
  · rfl
  · cases (outcome step world).1 <;> rfl

/-- The world after a step that an action follows in any case is the one after the action. -/
theorem outcome_andFinally_snd (step : Run α) (action : Run Unit) (world : World) :
    (outcome (andFinally step action) world).2 =
      (outcome action (outcome step world).2).2 := by
  rw [outcome_andFinally]
  rcases outcome action (outcome step world).2 with ⟨fault | value, last⟩ <;> rfl

/-! ## Whatever becomes of a step -/

/-- Whether a step leads from worlds of one kind to worlds of another one, be it that it gives a
value or that it fails. -/
def Leads (step : Run α) (before after : World → Prop) : Prop :=
  ∀ world, before world → after (outcome step world).2

/-- Whether worlds of one kind stay so in a step. -/
def Keeps (step : Run α) (kept : World → Prop) : Prop := Leads step kept kept

variable {before middle after kept : World → Prop}

/-- Two steps lead on if the second one does from where the first one leads, and if it does not
matter that the second one is left out. -/
theorem Leads.bind {step : Run α} {next : α → Run β} (first : Leads step before middle)
    (second : ∀ value, Leads (next value) middle after)
    (weaken : ∀ world, middle world → after world) : Leads (step >>= next) before after := by
  intro world start
  have reached := first world start
  rw [outcome_bind]
  split
  · rename_i value later ran
    rw [ran] at reached
    exact second value later reached
  · rename_i fault later ran
    rw [ran] at reached
    exact weaken later reached

/-- What two steps keep, one after the other keeps. -/
theorem Keeps.bind {step : Run α} {next : α → Run β} (first : Keeps step kept)
    (second : ∀ value, Keeps (next value) kept) : Keeps (step >>= next) kept :=
  Leads.bind first second fun _ reached => reached

/-- Giving a value keeps everything. -/
theorem Keeps.pure (value : α) : Keeps (Pure.pure value) kept := fun _ start => start

/-- Looking something up changes nothing. -/
theorem Keeps.look (question : Tree → Except FileFault α) : Keeps (Run.look question) kept := by
  intro world start
  rwa [outcome_look]

/-- A change that fails changes nothing. -/
theorem Keeps.change {act : Tree → Except FileFault Tree}
    (acts : ∀ world tree, act world.tree = .ok tree → kept world → kept { world with tree }) :
    Keeps (Run.change act) kept := by
  intro world start
  rw [outcome_change]
  cases acted : act world.tree with
  | error fault => exact start
  | ok tree => exact acts world tree acted start

end LintBench.Run
