import LintBench.Host.Shell.Launching
import LintBench.Host.Shell.OwnPrograms

/-!
# Evaluating commands

What each kind of command does. A command ends with a status; a failure that nothing
looks at ends the shell if failures are to. Loops are left and functions are ended by
leaving the steps inside them. A command beside the script is carried out at once.
-/

namespace LintBench.Host.Shell

/-- What carries a command out and gives its status; it is told whether something looks at that. -/
abbrev Evaluator := Bool → Command → Shell Nat

/-- What becomes of a step. -/
def outcomeOf {α : Type} (step : Shell α) : Shell (Except Leave α) := ExceptT.lift step.run

/-- The status of a shell that has ended. -/
def endStatus : Except Leave Nat → Nat
  | .ok status | .error (.exit status) | .error (.back status) => status
  | .error (.outOf _) | .error (.again _) => 0

/-- Note a status. -/
def settle (status : Nat) : Shell Nat := do
  modify fun session => { session with status }
  return status

/-- Note the status of a command. A failure that nothing looks at ends the shell if failures are
to. -/
def finish (guarded : Bool) (status : Nat) : Shell Nat := do
  discard (settle status)
  if status ≠ 0 && !guarded && (← isOn "errexit") then throw (.exit status)
  return status

/-! ## Scripts -/

/-- Carry out the lines of a script that are not read yet, after a status. Every line takes one from
`fuel`. -/
def carryOutLines (evaluate : Evaluator) (guarded : Bool) : Nat → ReadState → Nat → Shell Nat
  | 0, _, status => return status
  | fuel + 1, state, status => do
    match readNext.run state with
    | .error fault =>
      modify fun session => { session with line := fault.line }
      giveUp (octets ("Syntax error: " ++ fault.text))
    | .ok (none, _) => return status
    | .ok (some command, state) =>
      modify fun session => { session with documents := state.documents }
      carryOutLines evaluate guarded fuel state (← evaluate guarded command)

/-- Carry out the text of a script. -/
def carryOutText (evaluate : Evaluator) (guarded : Bool) (text : Octets) : Shell Nat := do
  let session ← get
  carryOutLines evaluate guarded (text.length + 2)
    { rest := text, dialect := session.dialect, documents := session.documents
      nextDocument := session.documents.length } 0

/-- Carry a step out in a shell of its own, which a change starts. What is to be done at its end is
done. -/
def enclosed (evaluate : Evaluator) (change : Session → Session) (step : Shell Nat) :
    Shell Nat := do
  let before ← get
  set (change { before with lastWords := none })
  let status := endStatus (← outcomeOf step)
  discard (settle status)
  let status ← match (← get).lastWords with
    | none => pure status
    | some action => do
      match ← outcomeOf (carryOutText evaluate false action) with
      | .error (.exit status) => pure status
      | _ => pure status
  let after ← get
  set { before with machine := after.machine }
  return status

/-- What a command writes to its first output. -/
def outputOf (evaluate : Evaluator) : OutputOf := fun command => do
  let number ← openChannel (.pipe [])
  let start (session : Session) : Session :=
    { session with descriptors := leading session.descriptors 1 number }
  let status ← enclosed evaluate start (evaluate false command)
  modify fun session => { session with outputStatus := status }
  return (← get).machine.waiting number

/-! ## Descriptors -/

/-- Tell that a file is not opened. -/
def refuseFile (reads : Bool) (path : Octets) (fault : FileFault) : Shell Nat := do
  match (← get).dialect, fault with
  | .extended, fault => tell (path ++ octets (": " ++ faultText fault)) 1
  | .plain, .missing =>
    tell (if reads then octets "cannot open " ++ path ++ octets ": No such file"
      else octets "cannot create " ++ path ++ octets ": Directory nonexistent") 2
  | .plain, fault =>
    tell (octets (if reads then "cannot open " else "cannot create ") ++ path
      ++ octets (": " ++ faultText fault)) 2

/-- Carry a redirection out. Gives the status if that cannot be done. -/
def redirect (run : OutputOf) : Redirection → Shell (Option Nat)
  | .read descriptor file => do
    let path ← expandText run file
    match ← nodeAt path, ← contentOf path with
    | .ok (place, .file _), _ =>
      lead descriptor (← openChannel (.file place 0 false))
      return none
    | _, .ok text => lead descriptor (← openChannel (.pipe text)) *> return none
    | _, .error fault => some <$> refuseFile true path fault
  | .write descriptor appends file => do
    let path ← expandText run file
    match ← openForWriting appends path with
    | .ok channel => lead descriptor (← openChannel channel) *> return none
    | .error fault => some <$> refuseFile false path fault
  | .copy descriptor other => do
    let text ← expandText run other
    if text = ['-'] then close descriptor *> return none
    else match ← (naturalOf? text).bindM channelOf with
    | some number => lead descriptor number *> return none
    | none => some <$> tell (text ++ octets ": Bad file descriptor") 2
  | .supply descriptor number => do
    let session ← get
    match session.documents.find? (·.number = number) with
    | none => return none
    | some document =>
      match document.word session.dialect with
      | .error fault => giveUp (octets ("Syntax error: " ++ fault.text))
      | .ok word => lead descriptor (← openChannel (.pipe (← expandText run word))) *> return none

/-- Carry redirections out in turn, up to one that cannot be carried out. -/
def redirectAll (run : OutputOf) : List Redirection → Shell (Option Nat)
  | [] => return none
  | change :: rest => do
    match ← redirect run change with
    | some status => return some status
    | none => redirectAll run rest

/-- Carry a step out, and let descriptors lead to where they led before it. -/
def keepingDescriptors {α : Type} (step : Shell α) : Shell α := do
  let descriptors := (← get).descriptors
  tryFinally step (modify fun session => { session with descriptors })

/-! ## Calling -/

/-- Carry out the script of a file, which is given arguments. -/
def carryOutFile (evaluate : Evaluator) (path : Octets) : Program := fun arguments => do
  match ← contentOf path with
  | .ok text =>
    modify fun session => { session with name := path, arguments }
    carryOutText evaluate false text
  | .error _ => tell (octets "cannot open " ++ path ++ octets ": No such file") 2

/-- Carry out what a shell is started with: a text, the script of a file, or its input. -/
def carryOutStart (evaluate : Evaluator) : Program := fun arguments => do
  let (rest, _) ← takeOptions arguments
  let isText ← isOn "text"
  turnOption false "text"
  match rest, ← isOn "stdin" with
  | text :: arguments, false =>
    if isText then
      modify fun session => { session with
        name := arguments.headD session.name, arguments := arguments.drop 1 }
      carryOutText evaluate false text
    else carryOutFile evaluate text arguments
  | arguments, _ =>
    modify fun session => { session with arguments }
    carryOutText evaluate false (← readInput)

/-- Run a shell, which knows only the variables that programs find. -/
def runShell (evaluate : Evaluator) (dialect : Dialect) (name : Octets) : Program :=
  fun arguments =>
    enclosed evaluate (fun session => {
      machine := session.machine, directory := session.directory
      descriptors := session.descriptors, dialect, name
      bindings := session.bindings.filter fun entry => entry.2.exported })
      (carryOutStart evaluate arguments)

/-- Run a program of the machine. -/
def runProgram (evaluate : Evaluator) (program : String) (name : Octets) : Program :=
  match shellDialect? program with
  | some dialect => runShell evaluate dialect name
  | none => (programs.lookup program).getD fun _ => return 127

/-- Run the program that words name. -/
def runOutside (evaluate : Evaluator) : List Octets → Shell Nat
  | [] => return 0
  | name :: arguments => do
    let session ← get
    let listed := (Keyed.get? session.bindings "PATH").map Variable.text
    match findProgram session.machine.tree session.directory listed name, session.dialect with
    | .ok program, _ => runProgram evaluate program name arguments
    | .error .notRunnable, _ => tell (name ++ octets ": Permission denied") 126
    | .error (.file _), .plain => tell (name ++ octets ": not found") 127
    | .error (.file _), .extended => tell (name ++ octets ": command not found") 127

/-- Call a function. -/
def callFunction (evaluate : Evaluator) (guarded : Bool) (body : Command)
    (arguments : List Octets) : Shell Nat := do
  let before ← get
  set { before with arguments, loops := 0, locals := [] }
  let outcome ← outcomeOf (evaluate guarded body)
  modify fun session => { session with
    arguments := before.arguments, loops := before.loops, locals := before.locals
    bindings := session.locals.foldl (fun bindings (name, held) => match held with
      | some held => Keyed.set bindings name held
      | none => bindings.filter fun entry => entry.1 ≠ name) session.bindings }
  match outcome with
  | .ok status | .error (.back status) => return status
  | .error leave => throw leave

/-- Carry out the script of a file in this shell. -/
def includeScript (evaluate : Evaluator) (guarded : Bool) : Program := fun arguments => do
  let path := arguments.headD []
  match ← contentOf path with
  | .ok text =>
    match ← outcomeOf (carryOutText evaluate guarded text) with
    | .ok status | .error (.back status) => return status
    | .error leave => throw leave
  | .error _ => giveUp (octets ".: cannot open " ++ path ++ octets ": No such file")

/-- The program of the shell whose settings stay that a name stands for. -/
def special? (evaluate : Evaluator) (guarded : Bool) : String → Option Program
  | "eval" => some fun arguments => carryOutText evaluate guarded (joined [' '] arguments)
  | "." => some (includeScript evaluate guarded)
  | "exec" => some fun words => do
    if words.isEmpty then return 0 else throw (.exit (← runOutside evaluate words))
  | name => specialPrograms.lookup name

/-- Carry a step out with variables that programs find, and put them back after it. -/
def withSettings (settings : List (String × Octets)) (step : Shell Nat) : Shell Nat := do
  let before := (← get).bindings
  settings.forM fun (name, text) =>
    changeVariable name fun held => { held with text, exported := true }
  let status ← step
  modify fun session => { session with bindings := settings.foldl (fun bindings (name, _) =>
    match Keyed.get? before name with
    | some held => Keyed.set bindings name held
    | none => bindings.filter fun entry => entry.1 ≠ name) session.bindings }
  return status

/-- Call what words name, with settings of variables. -/
def callNamed (evaluate : Evaluator) (guarded : Bool) (settings : List (String × Octets)) :
    List Octets → Shell Nat
  | [] => do
    settings.forM fun (name, text) => setVariable name text
    return (← get).outputStatus
  | name :: arguments => do
    let text := name.shown
    match special? evaluate guarded text, Keyed.get? (← get).functions text with
    | some program, _ =>
      settings.forM fun (name, text) => setVariable name text
      program arguments
    | none, some body => withSettings settings (callFunction evaluate guarded body arguments)
    | none, none => withSettings settings ((regularPrograms.lookup text).getD
        (fun arguments => runOutside evaluate (name :: arguments)) arguments)

/-- Show a command before it is carried out, if that is asked for. -/
def trace (settings : List (String × Octets)) (words : List Octets) : Shell Unit := do
  if ← isOn "xtrace" then
    let shown := settings.map fun (name, text) => octets name ++ '=' :: text
    put 2 (joined [' '] (['+'] :: shown ++ words) ++ ['\n'])

/-- Run a command of settings and words. Where descriptors lead is changed for it alone, unless it
is there for that. -/
def runSimple (evaluate : Evaluator) (guarded : Bool) (settings : List (String × Word))
    (words : List Word) (changes : List Redirection) : Shell Nat := do
  let run := outputOf evaluate
  let texts ← expandAll run words
  let step : Shell Nat := do
    match ← redirectAll run changes with
    | some status =>
      let isSpecial := texts.any fun name => (special? evaluate guarded name.shown).isSome
      if isSpecial && (← get).dialect = .plain then throw (.exit status) else return status
    | none =>
      let settings ← settings.mapM fun (name, word) => return (name, ← expandText run word)
      callNamed evaluate guarded settings texts
  let shown ← if ← isOn "xtrace" then
      settings.mapM fun (name, word) => return (name, ← expandText run word)
    else pure []
  trace shown texts
  if texts = [octets "exec"] then step else keepingDescriptors step

/-! ## Commands of commands -/

/-- Carry out commands each of which reads what the one before it wrote. Gives the last status. -/
def runPipe (evaluate : Evaluator) (guarded : Bool) : Option Nat → List Command → Shell Nat
  | _, [] => return 0
  | input, command :: rest => do
    let output ← if rest.isEmpty then pure none else some <$> openChannel (.pipe [])
    let start (session : Session) : Session :=
      let reading := (input.map (leading session.descriptors 0)).getD session.descriptors
      { session with descriptors := (output.map (leading reading 1)).getD reading }
    let status ← enclosed evaluate start (evaluate guarded command)
    if rest.isEmpty then return status else runPipe evaluate guarded output rest

/-- Carry a part of a loop out. Gives its status, and whether the loop goes on. -/
def looped (step : Shell (Nat × Bool)) : Shell (Nat × Bool) :=
  tryCatch step fun
    | .outOf (count + 2) => throw (.outOf (count + 1))
    | .again (count + 2) => throw (.again (count + 1))
    | .outOf _ => return (0, false)
    | .again _ => return (0, true)
    | leave => throw leave

/-- Carry a step out as a loop, which can be left. -/
def asLoop (step : Shell Nat) : Shell Nat := do
  let loops := (← get).loops
  modify fun session => { session with loops := loops + 1 }
  tryFinally step (modify fun session => { session with loops })

/-- How many rounds a loop makes at most. -/
def mostRounds : Nat := 1000000

/-- Repeat rounds until one of them says that no more follow. Each takes the status so far and one
from `fuel`. -/
def repeatRounds (round : Nat → Shell (Nat × Bool)) : Nat → Nat → Shell Nat
  | 0, status => return status
  | fuel + 1, status => do
    let (status, goesOn) ← looped (round status)
    if goesOn then repeatRounds round fuel status else return status

/-- Carry a round out for each of some words. -/
def forWords (round : Octets → Shell Nat) : List Octets → Nat → Shell Nat
  | [], status => return status
  | text :: rest, _ => do
    let (status, goesOn) ← looped (return (← round text, true))
    if goesOn then forWords round rest status else return status

/-- The first command that has a pattern which stands for a text. -/
def chosenBranch (run : OutputOf) (text : Octets) : List (List Word × Command) → Shell Command
  | [] => return .nothing
  | (patterns, body) :: rest => do
    let patterns ← patterns.mapM (expandPattern run)
    if patterns.any fun pattern => NamePattern.accepts pattern text then return body
    else chosenBranch run text rest

/-- Evaluate a command, unless commands are only read. Every level takes one from `fuel`. -/
def evaluate : Nat → Evaluator
  | 0, _, _ => giveUp (octets "too deeply nested")
  | fuel + 1, guarded, command => do
    if ← isOn "noexec" then return 0
    let inner : Evaluator := evaluate fuel
    let run := outputOf inner
    match command with
    | .nothing => return 0
    | .simple line settings words changes =>
      modify fun session => { session with line, outputStatus := 0 }
      finish guarded (← runSimple inner guarded settings words changes)
    | .redirected command changes =>
      keepingDescriptors do
        match ← redirectAll run changes with
        | some status => finish guarded status
        | none => inner guarded command
    | .pipe commands => finish guarded (← runPipe inner guarded none commands)
    | .andThen first second =>
      let status ← inner true first
      if status = 0 then inner guarded second else return status
    | .orElse first second =>
      let status ← inner true first
      if status = 0 then return status else inner guarded second
    | .sequence first second =>
      discard (inner guarded first)
      if second matches .nothing then return (← get).status else inner guarded second
    | .beside command =>
      let number ← openChannel .nowhere
      let start (session : Session) : Session :=
        { session with descriptors := leading session.descriptors 0 number }
      discard (enclosed inner start (inner false command))
      settle 0
    | .negated command =>
      let status ← inner true command
      settle (if status = 0 then 1 else 0)
    | .nested command => finish guarded (← enclosed inner id (inner guarded command))
    | .choose condition yes no =>
      let status ← inner true condition
      settle (← inner guarded (if status = 0 then yes else no))
    | .repeated failing condition body =>
      settle (← asLoop (repeatRounds (fun status => do
        let answer ← inner true condition
        if (answer = 0) != failing then return (← inner guarded body, true)
        else return (status, false)) mostRounds 0))
    | .each name words body =>
      let texts ← expandAll run words
      settle (← asLoop (forWords (fun text => do
        setVariable name text
        inner guarded body) texts 0))
    | .select subject branches =>
      let text ← expandText run subject
      settle (← inner guarded (← chosenBranch run text branches))
    | .define name body =>
      modify fun session => { session with functions := Keyed.set session.functions name body }
      settle 0
    | .holds subject differs pattern =>
      let text ← expandText run subject
      let holds := NamePattern.accepts (← expandPattern run pattern) text
      finish guarded (if holds != differs then 0 else 1)

end LintBench.Host.Shell
