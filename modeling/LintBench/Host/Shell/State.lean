import LintBench.Host.Shell.Reader
import LintBench.Run.Script

/-!
# The state of a shell

What a script can see and change while it runs. The machine is what all programs of
a run share: the world, and what descriptors lead to. The rest belongs to one shell:
its variables and options, the commands it has named, and its descriptors.
-/

namespace LintBench.Host.Shell

open Text (Bytes)

/-- What a descriptor leads to. -/
inductive Channel where
  /-- The first output of the run. -/
  | firstOutput
  /-- The second output of the run. -/
  | secondOutput
  /-- Nothing: it has no content and keeps none. -/
  | nowhere
  /-- What was written is read in turn. -/
  | pipe (waiting : Octets)
  /-- A file, from an offset on; `appends` says that writing goes to its end. -/
  | file (place : Place) (offset : Nat) (appends : Bool)
deriving Repr, Inhabited

/-- What the programs of a run share. -/
structure Machine where
  /-- The world of the run. -/
  world : World
  /-- What is open, by number. -/
  channels : List (Nat × Channel) := []
  /-- The number of what is opened next. -/
  nextChannel : Nat := 0
  /-- The files that stand at more than one place, each by its places. -/
  shared : List (List Place) := []
deriving Inhabited

/-- A variable. -/
structure Variable where
  /-- What it holds. -/
  text : Octets := []
  /-- Whether programs find it. -/
  exported : Bool := false
  /-- Whether it cannot be changed. -/
  fixed : Bool := false
deriving Repr, Inhabited

/-- What belongs to one shell. -/
structure ShellState where
  /-- The family it belongs to. -/
  dialect : Dialect := .plain
  /-- The names that lead to its directory from the root. -/
  directory : List String
  /-- Its variables. -/
  bindings : Keyed Variable := []
  /-- What descriptors lead to, by the numbers of the channels. -/
  descriptors : List (Nat × Nat) := []
  /-- The name of the script. -/
  name : Octets := octets "sh"
  /-- What the script was given. -/
  arguments : List Octets := []
  /-- The status of the command before. -/
  status : Nat := 0
  /-- The status of the last script in a word of this command. -/
  outputStatus : Nat := 0
  /-- The line of the script that is carried out. -/
  line : Nat := 1
  /-- The options that are on. -/
  options : List String := []
  /-- The commands that have names. -/
  functions : Keyed Command := []
  /-- What the variables were that the function in progress has for itself. -/
  locals : List (String × Option Variable) := []
  /-- What is done when the shell ends. -/
  lastWords : Option Octets := none
  /-- The texts that the script supplies. -/
  documents : List Document := []
  /-- How many loops are around the command. -/
  loops : Nat := 0
deriving Inhabited

/-- A shell, with what it shares with others. -/
structure Session extends ShellState where
  /-- What it shares with others. -/
  machine : Machine
deriving Inhabited

/-- How a command can end other than with a status. -/
inductive Leave where
  /-- The shell ends. -/
  | exit (status : Nat)
  /-- A function ends. -/
  | back (status : Nat)
  /-- So many loops end. -/
  | outOf (count : Nat)
  /-- So many loops less one end, and the one around them goes on. -/
  | again (count : Nat)
deriving Repr, Inhabited

end LintBench.Host.Shell

namespace LintBench.Host

/-- A step of a script. -/
abbrev Shell := ExceptT Shell.Leave (StateM Shell.Session)

/-- A program: what it does with its arguments, and the status it ends with. -/
abbrev Program := List Octets → Shell Nat

end LintBench.Host

namespace LintBench.Host.Shell

/-- Whether an option is on. -/
def isOn (option : String) : Shell Bool := return (← get).options.contains option

/-- Change the machine. -/
def changeMachine (act : Machine → Machine) : Shell Unit :=
  modify fun session => { session with machine := act session.machine }

/-! ## Files of the machine -/

namespace Machine

/-- The file tree. -/
def tree (machine : Machine) : Tree := machine.world.tree

/-- A machine with another file tree. -/
def withTree (machine : Machine) (tree : Tree) : Machine :=
  { machine with world := { machine.world with tree } }

/-- All places of the file at a place. -/
def placesOf (machine : Machine) (place : Place) : List Place :=
  (machine.shared.find? (·.contains place)).getD [place]

/-- The content of the file at a place. -/
def contentAt (machine : Machine) (place : Place) : Octets :=
  match machine.tree.get? place with
  | some (.file content) => .ofBytes content
  | _ => []

/-- Give the file at a place a content. -/
def store (machine : Machine) (place : Place) (content : Octets) : Machine :=
  let node := Node.file (Octets.toBytes content)
  machine.withTree ((machine.placesOf place).foldl (fun tree other => tree.set other node)
    machine.tree)

/-- Take away what stands at a place, with everything below it. What is open there leads nowhere
from then on. -/
def erase (machine : Machine) (gone : Place) : Machine :=
  { machine.withTree (machine.tree.erase gone) with
    channels := machine.channels.map fun (number, channel) => (number, match channel with
      | .file place _ _ => if gone.isPrefixOf place then .nowhere else channel
      | channel => channel)
    shared := machine.shared.map fun places => places.filter fun place => !gone.isPrefixOf place }

/-- Move what stands at a place, with everything below it, to where nothing stands. -/
def move (machine : Machine) (source target : Place) : Machine :=
  let moved (place : Place) : Place :=
    if source.isPrefixOf place then target ++ place.drop source.length else place
  { machine.withTree { nodes := machine.tree.nodes.map fun (place, node) => (moved place, node) }
    with
    channels := machine.channels.map fun (number, channel) => (number, match channel with
      | .file place offset appends => .file (moved place) offset appends
      | channel => channel)
    shared := machine.shared.map fun places => places.map moved }

/-- Let the file at a place stand at another place as well. -/
def share (machine : Machine) (source target : Place) : Machine :=
  { (machine.withTree (machine.tree.set target (.file []))) with
    shared := (target :: machine.placesOf source)
      :: machine.shared.filter fun places => !places.contains source }.store source
    (machine.contentAt source)

/-- Whether two places hold the same file. -/
def areSame (machine : Machine) (one other : Place) : Bool :=
  (machine.placesOf one).contains other

/-- The channel of a number. -/
def channel? (machine : Machine) (number : Nat) : Option Channel := machine.channels.lookup number

/-- Let a number stand for another state of its channel. -/
def setChannel (machine : Machine) (number : Nat) (channel : Channel) : Machine :=
  { machine with channels := machine.channels.map fun (other, present) =>
      (other, if other = number then channel else present) }

/-- Write to a channel. -/
def write (machine : Machine) (number : Nat) (text : Octets) : Machine :=
  let world := machine.world
  match machine.channel? number with
  | some .firstOutput =>
    { machine with world := { world with output := world.output ++ Octets.toBytes text } }
  | some .secondOutput =>
    { machine with world := { world with errors := world.errors ++ Octets.toBytes text } }
  | some (.pipe waiting) => machine.setChannel number (.pipe (waiting ++ text))
  | some (.file place offset appends) =>
    let content := machine.contentAt place
    let start := if appends then content.length else offset
    let filling := List.replicate (start - content.length) '\x00'
    let written := content.take start ++ filling ++ text ++ content.drop (start + text.length)
    (machine.store place written).setChannel number (.file place (start + text.length) appends)
  | some .nowhere | none => machine

/-- What is left to read from a channel. -/
def waiting (machine : Machine) (number : Nat) : Octets :=
  match machine.channel? number with
  | some (.pipe waiting) => waiting
  | some (.file place offset _) => (machine.contentAt place).drop offset
  | _ => []

/-- Go on in a channel after characters that were read. -/
def pass (machine : Machine) (number count : Nat) : Machine :=
  match machine.channel? number with
  | some (.pipe waiting) => machine.setChannel number (.pipe (waiting.drop count))
  | some (.file place offset appends) =>
    machine.setChannel number (.file place (offset + count) appends)
  | _ => machine

end Machine

/-! ## Descriptors -/

/-- Open a channel and give its number. -/
def openChannel (channel : Channel) : Shell Nat := do
  let number := (← get).machine.nextChannel
  changeMachine fun machine => { machine with
    channels := (number, channel) :: machine.channels, nextChannel := number + 1 }
  return number

/-- The number of the channel that a descriptor leads to. -/
def channelOf (descriptor : Nat) : Shell (Option Nat) :=
  return (← get).descriptors.lookup descriptor

/-- Descriptors with one of them leading elsewhere. -/
def leading (descriptors : List (Nat × Nat)) (descriptor channel : Nat) : List (Nat × Nat) :=
  (descriptor, channel) :: descriptors.filter fun entry => entry.1 ≠ descriptor

/-- Lead a descriptor to a channel. -/
def lead (descriptor channel : Nat) : Shell Unit :=
  modify fun session =>
    { session with descriptors := leading session.descriptors descriptor channel }

/-- Close a descriptor. -/
def close (descriptor : Nat) : Shell Unit :=
  modify fun session => { session with
    descriptors := session.descriptors.filter fun entry => entry.1 ≠ descriptor }

/-- Write to a descriptor. -/
def put (descriptor : Nat) (text : Octets) : Shell Unit := do
  if let some number ← channelOf descriptor then changeMachine (·.write number text)

/-- Write to the first output. -/
def say (text : Octets) : Shell Unit := put 1 text

/-- Look at all that is left of the input. -/
def waitingInput : Shell Octets := do
  match ← channelOf 0 with
  | some number => return (← get).machine.waiting number
  | none => return []

/-- Go on after characters of the input. -/
def passInput (count : Nat) : Shell Unit := do
  if let some number ← channelOf 0 then changeMachine (·.pass number count)

/-- Read all that is left of the input. -/
def readInput : Shell Octets := do
  let text ← waitingInput
  passInput text.length
  return text

/-! ## Complaints -/

/-- Tell something about a failure, and give a status. -/
def complain (text : Octets) (status : Nat) : Shell Nat := do
  put 2 (text ++ ['\n'])
  return status

/-- Tell that the shell cannot do something, with the line where it could not. -/
def tell (text : Octets) (status : Nat) : Shell Nat := do
  let session ← get
  let line := match session.dialect with
    | .plain => octets ": " ++ decimal session.line ++ octets ": "
    | .extended => octets ": line " ++ decimal session.line ++ octets ": "
  complain (session.name ++ line ++ text) status

/-- Tell that the shell cannot do something, and end it. -/
def giveUp {α : Type} (text : Octets) : Shell α := do
  let usual := match (← get).dialect with
    | .plain => 2
    | .extended => 1
  throw (.exit (← tell text usual))

/-- The words for a fault in a complaint. -/
def faultText : FileFault → String
  | .missing => "No such file or directory"
  | .occupied => "File exists"
  | .notDirectory => "Not a directory"
  | .isDirectory => "Is a directory"
  | .notEmpty => "Directory not empty"
  | .nameTooLong => "File name too long"
  | .tooManyLinks | .endlessLink | .linksTooDeep => "Too many levels of symbolic links"
  | .sameFile => "are the same file"
  | .nulInName | .unencodable => "Invalid argument"

/-! ## Paths -/

/-- Where a path leads to from a directory. -/
def spotFrom (tree : Tree) (directory : List String) (through : Bool) (path : Octets) :
    Except FileFault Tree.Spot :=
  let text := path.shown
  if path.isEmpty then .error .missing
  else if text.utf8ByteSize > Tree.longestPath then .error .nameTooLong
  else
    let steps := Tree.linkSteps text
    let start := if path.head? = some '/' then [] else directory
    tree.walk through Tree.mostLinks [] (start ++ steps)

/-- Where a path leads to; a link at its end is not followed unless `through` is set. -/
def locate (through : Bool) (path : Octets) : Shell (Except FileFault Tree.Spot) := do
  let session ← get
  return spotFrom session.machine.tree session.directory through path

/-- What a path leads to. -/
def nodeAt (path : Octets) : Shell (Except FileFault (Place × Node)) := do
  match ← locate true path with
  | .ok ⟨place, some node⟩ => return .ok (place, node)
  | .ok ⟨_, none⟩ => return .error .missing
  | .error fault => return .error fault

/-- The content of a file. -/
def contentOf (path : Octets) : Shell (Except FileFault Octets) := do
  if path = octets "/dev/null" then return .ok []
  else match ← nodeAt path with
    | .ok (_, .file content) => return .ok (.ofBytes content)
    | .ok _ => return .error .isDirectory
    | .error fault => return .error fault

/-- Make a file ready for writing, and give its channel. -/
def openForWriting (appends : Bool) (path : Octets) : Shell (Except FileFault Channel) := do
  if path = octets "/dev/null" then return .ok .nowhere
  else match ← locate true path with
    | .error fault => return .error fault
    | .ok ⟨_, some .directory⟩ => return .error .isDirectory
    | .ok ⟨place, node⟩ =>
      if !(appends && node.isSome) then changeMachine (·.store place [])
      return .ok (.file place 0 appends)

/-! ## Variables -/

/-- The number of the shell. -/
def shellNumber : Nat := 4242

/-- The value of a variable, of what the script was given, or of what the shell keeps. -/
def valueOf (name : String) : Shell (Option Octets) := do
  let session ← get
  match name with
  | "#" => return some (decimal session.arguments.length)
  | "?" => return some (decimal session.status)
  | "$" => return some (decimal shellNumber)
  | "!" => return none
  | "-" => return some []
  | name =>
    match naturalOf? name.toList with
    | some 0 => return some session.name
    | some number => return session.arguments[number - 1]?
    | none => return (Keyed.get? session.bindings name).map Variable.text

/-- Change a variable, if it can be changed. -/
def changeVariable (name : String) (change : Variable → Variable) : Shell Unit := do
  let held := (Keyed.get? (← get).bindings name).getD {}
  if held.fixed then giveUp (octets (name ++ ": is read only"))
  else modify fun session => { session with
    bindings := Keyed.set session.bindings name (change held) }

/-- Give a variable a value. -/
def setVariable (name : String) (text : Octets) : Shell Unit :=
  changeVariable name fun held => { held with text }

end LintBench.Host.Shell
