import LintBench.Host.Shell.Evaluation

/-!
# The interpreter of scripts

Programs are started as the processes of a run. The one that a script is given to is
looked for in the directories that its variables list. What it does to the world stays
done when it ends.
-/

namespace LintBench.Host.Shell

/-- Whether a program is given a text that cannot be given to one: one with the character that ends
texts, or a variable's name with the sign that ends names. -/
def givesUnfit (invocation : Invocation) : Bool :=
  (invocation.program :: invocation.arguments
    ++ invocation.environment.flatMap fun (name, value) => [name, value]).any Tree.holdsNul
  || invocation.environment.any fun entry => entry.1.toList.contains '='

/-- The channels of a process: its input, and its outputs. -/
def channelsFor (invocation : Invocation) : List (Nat × Channel) :=
  let first := match invocation.output with
    | .first => Channel.firstOutput
    | .second => .secondOutput
    | .kept => .pipe []
  [(2, .secondOutput), (1, first), (0, .pipe (.ofBytes invocation.input))]

/-- The names that lead to the directory of a process. -/
def directoryOf (tree : Tree) (path : Path) : List String :=
  match tree.locate true path with
  | .ok ⟨place, _⟩ => place
  | .error _ => path.names

/-- The shell in which a process starts. -/
def sessionFor (world : World) (invocation : Invocation) : Session :=
  { machine := { world, channels := channelsFor invocation, nextChannel := 3 }
    directory := directoryOf world.tree invocation.directory
    bindings := invocation.environment.map fun (name, value) =>
      (name, { text := octets value, exported := true })
    descriptors := [(0, 0), (1, 1), (2, 2)] }

/-- How deep commands can be nested. -/
def deepestCommand : Nat := 10000

/-- Run programs as processes. -/
def interpreter : Interpreter := fun invocation => do
  let world ← get
  let session := sessionFor world invocation
  let listed := (Keyed.get? session.bindings "PATH").map Variable.text
  let name := octets invocation.program
  if givesUnfit invocation then throw (.file .nulInName)
  else match findProgram world.tree session.directory listed name with
    | .error (.file fault) => throw (.file fault)
    | .error .notRunnable => throw .notRunnable
    | .ok program =>
      let process := runProgram (evaluate deepestCommand) program name
        (invocation.arguments.map octets)
      let (outcome, last) := process.run.run session
      set last.machine.world
      let kept := match invocation.output with
        | .kept => Octets.toBytes (last.machine.waiting 1)
        | _ => []
      return { status := endStatus outcome, kept }

end LintBench.Host.Shell
