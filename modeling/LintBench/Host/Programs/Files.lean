import LintBench.Host.Shell.State

/-!
# Programs that read and change files

Showing, copying, moving, linking, removing and listing files, and making directories.
Each program takes its operands one after the other, complains about those that it
cannot do anything with, and goes on with the others.
-/

namespace LintBench.Host.Programs

open Shell

/-! ## Operands -/

/-- Complain in the name of a program, and give the status of a failure. -/
def refuse (name : String) (text : Octets) : Shell Nat := complain (octets (name ++ ": ") ++ text) 1

/-- What a program is asked for by letters after hyphens, each with its value. -/
abbrev Letters := List (Char × Octets)

/-- Whether a letter is among those that a program is given. -/
def Letters.has (letters : Letters) (letter : Char) : Bool := (letters.lookup letter).isSome

/-- The letters that a text after a hyphen holds; one of `valued` is followed by its value, which
may be missing. A letter that is not known is a fault. -/
def readLetters (known valued : List Char) : Octets → Except Char (Letters × Option Char)
  | [] => .ok ([], none)
  | letter :: rest =>
    if valued.contains letter then
      .ok (if rest.isEmpty then ([], some letter) else ([(letter, rest)], none))
    else if known.contains letter then
      (readLetters known valued rest).map fun (letters, waiting) =>
        ((letter, []) :: letters, waiting)
    else .error letter

/-- The letters among arguments, and the operands. -/
def takeLetters (known valued : List Char) : List Octets → Except Char (Letters × List Octets)
  | [] => .ok ([], [])
  | ['-', '-'] :: operands => .ok ([], operands)
  | ('-' :: letter :: letters) :: rest => do
    match ← readLetters known valued (letter :: letters), rest with
    | (found, none), rest =>
      let (later, operands) ← takeLetters known valued rest
      return (found ++ later, operands)
    | (found, some letter), value :: rest =>
      let (later, operands) ← takeLetters known valued rest
      return (found ++ (letter, value) :: later, operands)
    | (_, some letter), [] => .error letter
  | operand :: rest => do
    let (letters, operands) ← takeLetters known valued rest
    return (letters, operand :: operands)

/-- A program that takes letters, some of them with values, and operands. -/
def withLetters (name : String) (known valued : List Char) (act : Letters → Program) : Program :=
  fun arguments => do
    match takeLetters known valued arguments with
    | .ok (letters, operands) => act letters operands
    | .error letter =>
      let why := if valued.contains letter then "option requires an argument -- '"
        else "invalid option -- '"
      discard (refuse name (octets why ++ [letter, '\'']))
      complain (octets ("Try '" ++ name ++ " --help' for more information.")) 1

/-- Carry something out for each operand, and give the worst status. -/
def forEach {α : Type} (operands : List α) (act : α → Shell Nat) : Shell Nat :=
  operands.foldlM (fun status operand => do return max status (← act operand)) 0

/-- A path between quotes. -/
def quoted (path : Octets) : Octets := '\'' :: path ++ ['\'']

/-- Say why an operand could not be worked on. -/
def cannot (name what : String) (path : Octets) (fault : FileFault) : Shell Nat :=
  refuse name (octets (what ++ " ") ++ quoted path ++ octets (": " ++ faultText fault))

/-- The last name of a path. -/
def lastName (path : Octets) : Octets :=
  let named := path.reverse.dropWhile (· = '/')
  (named.takeWhile (· ≠ '/')).reverse

/-- A path in a directory. -/
def inDirectory (directory name : Octets) : Octets :=
  if directory.getLast? = some '/' then directory ++ name else directory ++ '/' :: name

/-- Work on the operands but the last one, which says where each of them goes: into a directory, or
to the path itself. -/
def withTarget (name : String) (act : Octets → Octets → Shell Nat) : Program := fun operands => do
  let target := operands.getLastD []
  match operands, ← nodeAt target with
  | [], _ => refuse name (octets "missing file operand")
  | [source], _ => refuse name (octets "missing destination file operand after " ++ quoted source)
  | sources, .ok (_, .directory) =>
    forEach sources.dropLast fun source => act source (inDirectory target (lastName source))
  | [source, target], _ => act source target
  | _, .error fault => cannot name "target" target fault
  | _, .ok _ => cannot name "target" target .notDirectory

/-- A text with blanks before it, up to a width. -/
def padded (width : Nat) (text : Octets) : Octets :=
  List.replicate (width - text.length) ' ' ++ text

/-! ## Showing -/

/-- The content of an operand: of a file, or of the input if it is a hyphen. -/
def operandContent (path : Octets) : Shell (Except FileFault Octets) := do
  if path = ['-'] then return .ok (← readInput) else contentOf path

/-- Carry something out for the content of each operand, or of the input if there are none; complain
in the name of a program about those that are not read. -/
def forContents (name : String) (operands : List Octets) (act : Octets → Shell Unit) : Shell Nat :=
  forEach (if operands.isEmpty then [['-']] else operands) fun path => do
    match ← operandContent path with
    | .ok content => act content *> return 0
    | .error fault => refuse name (path ++ octets (": " ++ faultText fault))

/-- Show files one after the other, with the numbers of their lines if that is asked for. -/
def cat : Program := withLetters "cat" ['n'] [] fun letters operands =>
  forContents "cat" operands fun content =>
    if letters.has 'n' then
      (linesOfOctets content).zipIdx.forM fun (line, index) =>
        say (padded 6 (decimal (index + 1)) ++ '\t' :: line ++ ['\n'])
    else say content

/-- Show the input, and store it in files as well. -/
def tee : Program := withLetters "tee" ['a'] [] fun letters operands => do
  let text ← readInput
  say text
  forEach operands fun path => do
    match ← openForWriting (letters.has 'a') path with
    | .ok channel =>
      let number ← openChannel channel
      changeMachine (·.write number text)
      return 0
    | .error fault => refuse "tee" (path ++ octets (": " ++ faultText fault))

/-! ## Copying and moving -/

/-- Let a copy of what stands at a place, with all that is below it, stand at another place. -/
def copyPlace (source target : Place) : Shell Unit :=
  changeMachine fun machine =>
    let below := machine.tree.nodes.filter fun (place, _) => source.isPrefixOf place
    below.foldl (fun machine (place, node) =>
      let goal := target ++ place.drop source.length
      match node with
      | .file content => machine.store goal (.ofBytes content)
      | node => machine.withTree (machine.tree.set goal node)) machine

/-- Copy an operand; directories are copied only if that is asked for. -/
def copyOne (deep : Bool) (source target : Octets) : Shell Nat := do
  match ← nodeAt source, ← locate true target with
  | .error fault, _ => cannot "cp" "cannot stat" source fault
  | .ok (place, .directory), goal =>
    match deep, goal with
    | false, _ => refuse "cp" (octets "-r not specified; omitting directory " ++ quoted source)
    | true, .error fault => cannot "cp" "cannot create directory" target fault
    | true, .ok ⟨_, some (.file _)⟩ =>
      refuse "cp" (octets "cannot overwrite non-directory " ++ quoted target
        ++ octets " with directory " ++ quoted source)
    | true, .ok ⟨goal, _⟩ => copyPlace place goal *> return 0
  | .ok _, .error fault => cannot "cp" "cannot create regular file" target fault
  | .ok _, .ok ⟨_, some .directory⟩ =>
    refuse "cp" (octets "cannot overwrite directory " ++ quoted target
      ++ octets " with non-directory " ++ quoted source)
  | .ok (place, _), .ok ⟨goal, _⟩ =>
    if (← get).machine.areSame place goal then
      refuse "cp" (quoted source ++ octets " and " ++ quoted target ++ octets " are the same file")
    else copyPlace place goal *> return 0

/-- Copy files. -/
def cp : Program := withLetters "cp" ['r', 'R', 'f', 'p'] [] fun letters =>
  withTarget "cp" (copyOne (letters.has 'r' || letters.has 'R'))

/-- Move an operand. -/
def moveOne (source target : Octets) : Shell Nat := do
  let cannotMove (fault : FileFault) : Shell Nat :=
    refuse "mv" (octets "cannot move " ++ quoted source ++ octets " to " ++ quoted target
      ++ octets (": " ++ faultText fault))
  match ← locate false source, ← locate false target with
  | .error fault, _ => cannot "mv" "cannot stat" source fault
  | .ok ⟨_, none⟩, _ => cannot "mv" "cannot stat" source .missing
  | .ok _, .error fault => cannotMove fault
  | .ok ⟨place, some node⟩, .ok ⟨goal, present⟩ =>
    let machine := (← get).machine
    if machine.areSame place goal then
      refuse "mv" (quoted source ++ octets " and " ++ quoted target ++ octets " are the same file")
    else if place.isPrefixOf goal then
      refuse "mv" (octets "cannot move " ++ quoted source
        ++ octets " to a subdirectory of itself, " ++ quoted target)
    else match node, present with
      | .directory, some .directory =>
        if machine.tree.children goal ≠ [] then cannotMove .notEmpty
        else changeMachine (fun machine => (machine.erase goal).move place goal) *> return 0
      | .directory, some _ =>
        refuse "mv" (octets "cannot overwrite non-directory " ++ quoted target
          ++ octets " with directory " ++ quoted source)
      | _, some .directory =>
        refuse "mv" (octets "cannot overwrite directory " ++ quoted target
          ++ octets " with non-directory")
      | _, _ => changeMachine (fun machine => (machine.erase goal).move place goal) *> return 0

/-- Move files. -/
def mv : Program := withLetters "mv" ['f'] [] fun _ => withTarget "mv" moveOne

/-! ## Linking, removing, making -/

/-- Make a link to an operand: by its name, or as the same file. -/
def linkOne (byName forces : Bool) (source target : Octets) : Shell Nat := do
  let kind := if byName then "symbolic link" else "hard link"
  match ← locate false target, ← locate false source with
  | .error fault, _ => cannot "ln" ("failed to create " ++ kind) target fault
  | .ok ⟨goal, present⟩, origin =>
    if present.isSome && !(forces && !(present matches some .directory)) then
      cannot "ln" ("failed to create " ++ kind) target .occupied
    else match byName, origin with
      | true, _ =>
        changeMachine fun machine =>
          let machine := if present.isSome then machine.erase goal else machine
          machine.withTree (machine.tree.set goal (.link source.shown))
        return 0
      | false, .ok ⟨place, some (.file _)⟩ => changeMachine (·.share place goal) *> return 0
      | false, .ok ⟨_, some _⟩ =>
        refuse "ln" (source ++ octets ": hard link not allowed for directory")
      | false, .ok ⟨_, none⟩ => cannot "ln" "failed to access" source .missing
      | false, .error fault => cannot "ln" "failed to access" source fault

/-- Make links. -/
def ln : Program := withLetters "ln" ['s', 'f'] [] fun letters operands =>
  let act := linkOne (letters.has 's') (letters.has 'f')
  match operands with
  | [source] => act source (lastName source)
  | operands => withTarget "ln" act operands

/-- Remove files, and directories if that is asked for. -/
def rm : Program := withLetters "rm" ['f', 'r', 'R'] [] fun letters operands =>
  forEach operands fun path => do
    match ← locate false path with
    | .ok ⟨place, some node⟩ =>
      if (node matches .directory) && !(letters.has 'r' || letters.has 'R') then
        cannot "rm" "cannot remove" path .isDirectory
      else changeMachine (·.erase place) *> return 0
    | .ok ⟨_, none⟩ =>
      if letters.has 'f' then return 0 else cannot "rm" "cannot remove" path .missing
    | .error fault =>
      if letters.has 'f' && fault.meansAbsent then return 0
      else cannot "rm" "cannot remove" path fault

/-- Make files that are empty, unless they are there. -/
def touch : Program := withLetters "touch" ['c'] [] fun letters operands =>
  forEach operands fun path => do
    match ← locate true path with
    | .ok ⟨place, none⟩ =>
      if !letters.has 'c' then changeMachine (·.store place [])
      return 0
    | .ok _ => return 0
    | .error fault => cannot "touch" "cannot touch" path fault

/-- Remove directories in which nothing stands. -/
def rmdir : Program := withLetters "rmdir" [] [] fun _ operands =>
  forEach operands fun path => do
    match ← locate false path with
    | .ok ⟨place, some .directory⟩ =>
      if ((← get).machine.tree.children place).isEmpty then
        changeMachine (·.erase place)
        return 0
      else cannot "rmdir" "failed to remove" path .notEmpty
    | .ok ⟨_, some _⟩ => cannot "rmdir" "failed to remove" path .notDirectory
    | .ok ⟨_, none⟩ => cannot "rmdir" "failed to remove" path .missing
    | .error fault => cannot "rmdir" "failed to remove" path fault

/-- Make directories, and those on the way to them if that is asked for. -/
def mkdir : Program := withLetters "mkdir" ['p'] [] fun letters operands =>
  forEach operands fun path => do
    let tree := (← get).machine.tree
    let goal := Path.ofNames (← get).directory / Path.ofString path.shown
    let made := if letters.has 'p' then tree.makeDirectories goal else tree.makeDirectory goal
    match made with
    | .ok tree => changeMachine (·.withTree tree) *> return 0
    | .error fault =>
      refuse "mkdir" (octets "cannot create directory ‘" ++ path
        ++ octets ("’: " ++ faultText fault))

/-! ## Names -/

/-- Names in their order. -/
def inOrder (names : List Octets) : List Octets :=
  names.mergeSort fun one other => !other.lex one fun c d => decide (c < d)

/-- The names in a directory that are listed. -/
def listedNames (letters : Letters) (tree : Tree) (place : Place) : List Octets :=
  let present := (tree.children place).map octets
  let shown := if letters.has 'a' then ['.'] :: ['.', '.'] :: present else present
  inOrder (shown.filter fun name => letters.has 'a' || letters.has 'A' || name.head? ≠ some '.')

/-- List files, and the names in directories. -/
def ls : Program := withLetters "ls" ['1', 'a', 'A', 'd'] [] fun letters operands => do
  let paths := if operands.isEmpty then [['.']] else inOrder operands
  let found ← paths.mapM fun path => return (path, ← nodeAt path)
  let tree := (← get).machine.tree
  let lines (names : List Octets) : Octets := names.flatMap (· ++ ['\n'])
  let status ← forEach found fun (path, outcome) => do
    match outcome with
    | .error fault =>
      complain (octets "ls: cannot access " ++ quoted path ++ octets (": " ++ faultText fault)) 2
    | .ok _ => return 0
  let files := found.filterMap fun (path, outcome) => match outcome with
    | .ok (_, .directory) => if letters.has 'd' then some path else none
    | .ok _ => some path
    | .error _ => none
  let rows := found.filterMap fun (path, outcome) => match outcome with
    | .ok (place, .directory) =>
      let title := if operands.length > 1 then path ++ [':', '\n'] else []
      if letters.has 'd' then none else some (title ++ lines (listedNames letters tree place))
    | _ => none
  say (joined ['\n'] ((if files.isEmpty then [] else [lines files]) ++ rows))
  return status

/-- The paths of what stands below a directory, and of the directory. Each level takes one from
`fuel`. -/
def pathsBelow (tree : Tree) : Nat → Place → Octets → List (Octets × Node)
  | 0, _, _ => []
  | fuel + 1, place, path =>
    match tree.get? place with
    | some .directory =>
      (path, .directory) :: (inOrder ((tree.children place).map octets)).flatMap fun name =>
        pathsBelow tree fuel (place ++ [name.shown]) (inDirectory path name)
    | some node => [(path, node)]
    | none => []

/-- Whether what is looked for is of a kind and has a name. -/
def isSought (path : Octets) (node : Node) : List Octets → Bool
  | ['-', 't', 'y', 'p', 'e'] :: [kind] :: rest =>
    (match node with
      | .directory => kind = 'd'
      | .file _ => kind = 'f'
      | .link _ => kind = 'l') && isSought path node rest
  | ['-', 'n', 'a', 'm', 'e'] :: pattern :: rest =>
    NamePattern.accepts (NamePattern.read pattern) (lastName path) && isSought path node rest
  | _ => true

/-- Look for files below paths. -/
def find : Program := fun arguments => do
  let paths := arguments.takeWhile fun text => text.head? ≠ some '-'
  forEach (if paths.isEmpty then [['.']] else paths) fun path => do
    match ← locate false path with
    | .ok ⟨place, some _⟩ =>
      (pathsBelow (← get).machine.tree 1000 place path).forM fun (path, node) => do
        if isSought path node (arguments.drop paths.length) then say (path ++ ['\n'])
      return 0
    | .ok ⟨_, none⟩ => refuse "find" (quoted path ++ octets ": No such file or directory")
    | .error fault => refuse "find" (quoted path ++ octets (": " ++ faultText fault))

/-- Show the last name of a path, without an ending. -/
def basename : Program := fun operands => do
  match operands with
  | [path] => say (lastName path ++ ['\n']) *> return 0
  | [path, ending] =>
    let name := lastName path
    let cuts := ending.isSuffixOf name && ending ≠ name
    say ((if cuts then name.take (name.length - ending.length) else name) ++ ['\n']) *> return 0
  | _ => refuse "basename" (octets "missing operand")

/-- Show the path of the directory in which a path leads to something. -/
def dirname : Program := fun operands => do
  operands.forM fun path => do
    let named := (path.reverse.dropWhile (· = '/')).dropWhile (· ≠ '/')
    let before := (named.dropWhile (· = '/')).reverse
    say (if named.isEmpty then ['.', '\n'] else if before.isEmpty then ['/', '\n']
      else before ++ ['\n'])
  return 0

/-- Show the path that a link holds. -/
def readlink : Program := withLetters "readlink" [] [] fun _ operands =>
  forEach operands fun path => do
    match ← locate false path with
    | .ok ⟨_, some (.link target)⟩ => say (octets target ++ ['\n']) *> return 0
    | _ => return 1

/-- Show numbers up to one, from one to another, or in steps. -/
def seq : Program := fun operands => do
  let count (first step last : Int) : Shell Nat := do
    let length := if step = 0 then 0 else ((last - first) / step + 1).toNat
    (List.range length).forM fun index => say (decimal (first + index * step) ++ ['\n'])
    return 0
  match operands.map integerOf? with
  | [some last] => count 1 1 last
  | [some first, some last] => count first 1 last
  | [some first, some step, some last] => count first step last
  | _ => refuse "seq" (octets "missing operand")

end LintBench.Host.Programs
