import LintBench.Host.Programs.Files
import LintBench.Host.Shell.Expansion

/-!
# Programs of the shell itself

Showing texts, asking about texts and files, reading a line into variables, and
changing what belongs to the shell.
-/

namespace LintBench.Host.Shell

/-! ## Showing texts -/

/-- The character that an escape stands for, its backslash taken, and the text after it. Octal
digits may have a further zero in front of them if `zero` is set; shells of the extended family also
know other digits. -/
def takeEscape (dialect : Dialect) (zero : Bool) : Octets → Option (Octets × Octets)
  | [] => none
  | c :: rest =>
    let isOctal (c : Char) : Bool := (digitOf? 8 c).isSome
    let byte (base : Nat) (digits after : Octets) : Option (Octets × Octets) :=
      (numberOf? base digits).map fun n => ([Char.ofNat (n % 256)], after)
    if isOctal c then
      let text := if zero && c = '0' then rest else c :: rest
      let digits := (text.take 3).takeWhile isOctal
      byte 8 digits (text.drop digits.length)
    else match c with
      | 'a' => some (['\x07'], rest)
      | 'b' => some (['\x08'], rest)
      | 'f' => some (['\x0c'], rest)
      | 'n' => some (['\n'], rest)
      | 'r' => some (['\r'], rest)
      | 't' => some (['\t'], rest)
      | 'v' => some (['\x0b'], rest)
      | '\\' => some (['\\'], rest)
      | 'x' =>
        let digits := (rest.take 2).takeWhile fun c => (digitOf? 16 c).isSome
        if dialect = .plain then none else byte 16 digits (rest.drop digits.length)
      | _ => none

/-- A text with characters in place of escapes. Each character takes one from `fuel`. -/
def unescape (dialect : Dialect) (zero : Bool) : Nat → Octets → Octets
  | fuel + 1, '\\' :: rest =>
    match takeEscape dialect zero rest with
    | some (text, after) => text ++ unescape dialect zero fuel after
    | none => '\\' :: unescape dialect zero fuel rest
  | fuel + 1, c :: rest => c :: unescape dialect zero fuel rest
  | _, text => text

/-- Show arguments. Shells of the plain family put characters in place of escapes; others do if that
is asked for. -/
def echo : Program := fun arguments => do
  let dialect := (← get).dialect
  let known := if dialect = .plain then ['n'] else ['n', 'e']
  let isOption (text : Octets) : Bool :=
    text.head? = some '-' && text.length > 1 && (text.drop 1).all known.contains
  let options := (arguments.takeWhile isOption).flatten
  let text := joined [' '] (arguments.dropWhile isOption)
  let shown := if dialect = .plain || options.contains 'e' then
      unescape dialect true text.length text
    else text
  say (shown ++ if options.contains 'n' then [] else ['\n'])
  return 0

/-- How an argument is shown. -/
structure Directive where
  /-- The letters that change it. -/
  flags : Octets
  /-- How wide it is at least. -/
  width : Nat
  /-- How long it is at most, or how many digits it has at least. -/
  precision : Option Nat
  /-- What it is. -/
  kind : Char

/-- Take a directive, its first sign taken. -/
def takeDirective (text : Octets) : Option (Directive × Octets) := do
  let flags := text.takeWhile ['-', '+', ' ', '0', '#'].contains
  let rest := text.drop flags.length
  let width := rest.takeWhile Char.isDigit
  let rest := rest.drop width.length
  let (precision, rest) := match rest with
    | '.' :: rest =>
      let digits := rest.takeWhile Char.isDigit
      (some ((naturalOf? digits).getD 0), rest.drop digits.length)
    | rest => (none, rest)
  let kind ← rest.head?
  return ({ flags, width := (naturalOf? width).getD 0, precision, kind }, rest.drop 1)

/-- A text that can be read again as one argument. -/
def readable (text : Octets) : Octets :=
  if text.isEmpty then ['\'', '\'']
  else text.flatMap fun c =>
    if c.isAlphanum || "_-./:=+,@%".toList.contains c then [c] else ['\\', c]

/-- An argument as a directive shows it. -/
def Directive.show (directive : Directive) (dialect : Dialect) (argument : Octets) : Octets :=
  let has (flag : Char) : Bool := directive.flags.contains flag
  let fill (sign body : Octets) (zeros : Bool) : Octets :=
    let missing := directive.width - (sign.length + body.length)
    if has '-' then sign ++ body ++ List.replicate missing ' '
    else if zeros && has '0' then sign ++ List.replicate missing '0' ++ body
    else List.replicate missing ' ' ++ sign ++ body
  let number (base : Nat) : Octets :=
    let n := (integerOf? argument).getD 0
    let n := if base ≠ 10 && n < 0 then n + wordSize else n
    let digits := Nat.toDigits base n.natAbs
    let digits := List.replicate (directive.precision.getD 0 - digits.length) '0' ++ digits
    let sign := if n < 0 then ['-'] else if base = 10 && has '+' then ['+'] else []
    fill sign digits directive.precision.isNone
  let cutText (text : Octets) : Octets := text.take (directive.precision.getD text.length)
  match directive.kind with
  | 'd' | 'i' | 'u' => number 10
  | 'x' => number 16
  | 'X' => (number 16).map Char.toUpper
  | 'o' => number 8
  | 'c' => fill [] (argument.take 1) false
  | 'b' => fill [] (cutText (unescape dialect true argument.length argument)) false
  | 'q' => fill [] (readable argument) false
  | _ => fill [] (cutText argument) false

/-- Show a form with arguments in it, and give the arguments that are left. Each character takes one
from `fuel`. -/
def showForm (dialect : Dialect) : Nat → Octets → List Octets → Octets × List Octets
  | fuel + 1, '\\' :: rest, arguments =>
    let (text, after) := (takeEscape dialect false rest).getD (['\\'], rest)
    let (shown, left) := showForm dialect fuel after arguments
    (text ++ shown, left)
  | fuel + 1, '%' :: '%' :: rest, arguments =>
    let (shown, left) := showForm dialect fuel rest arguments
    ('%' :: shown, left)
  | fuel + 1, '%' :: rest, arguments =>
    match takeDirective rest with
    | some (directive, after) =>
      let (shown, left) := showForm dialect fuel after (arguments.drop 1)
      (directive.show dialect (arguments.headD []) ++ shown, left)
    | none => (['%'], arguments)
  | fuel + 1, c :: rest, arguments =>
    let (shown, left) := showForm dialect fuel rest arguments
    (c :: shown, left)
  | _, _, arguments => ([], arguments)

/-- Show a form as often as arguments are left for it, which takes one from `fuel` each time. -/
def showForms (dialect : Dialect) (form : Octets) : Nat → List Octets → Octets
  | 0, _ => []
  | fuel + 1, arguments =>
    let (shown, left) := showForm dialect form.length form arguments
    shown ++ if left.isEmpty || left.length = arguments.length then []
      else showForms dialect form fuel left

/-- Show arguments in a form. -/
def printf : Program := fun arguments => do
  match arguments with
  | form :: arguments =>
    say (showForms (← get).dialect form (arguments.length + 1) arguments)
    return 0
  | [] => tell (octets "printf: usage: printf format [arg ...]") 2

/-! ## Asking -/

/-- Whether something holds of the path or text that stands after a letter. -/
def asksOne (letter : Char) (text : Octets) : Shell Bool := do
  let found ← nodeAt text
  return match letter, found with
  | 'z', _ => text.isEmpty
  | 'n', _ => !text.isEmpty
  | 'f', .ok (_, .file _) => true
  | 's', .ok (_, .file content) => !content.isEmpty
  | 'd', .ok (_, .directory) => true
  | 'e', .ok _ | 'r', .ok _ | 'w', .ok _ => true
  | _, _ => false

/-- Whether something holds of two texts. -/
def asksTwo (one : Octets) (sign : String) (other : Octets) : Shell Bool := do
  let number (text : Octets) : Shell Int := do
    match integerOf? text with
    | some n => return n
    | none => giveUp (octets "Illegal number: " ++ text)
  match sign with
  | "=" | "==" => return one = other
  | "!=" => return one ≠ other
  | "-a" => return !one.isEmpty && !other.isEmpty
  | "-o" => return !one.isEmpty || !other.isEmpty
  | "-eq" => return (← number one) = (← number other)
  | "-ne" => return (← number one) ≠ (← number other)
  | "-lt" => return (← number one) < (← number other)
  | "-le" => return (← number one) ≤ (← number other)
  | "-gt" => return (← number one) > (← number other)
  | "-ge" => return (← number one) ≥ (← number other)
  | _ => giveUp (octets ("[: " ++ sign ++ ": unexpected operator"))

/-- Whether what arguments say holds. A choice is looked for first, and then what has to hold
together. Each call takes one from `fuel`. -/
def asks : Nat → List Octets → Shell Bool
  | 0, _ | _, [] => return false
  | fuel + 1, arguments => do
    match arguments with
    | [text] => return !text.isEmpty
    | [['!'], text] => return text.isEmpty
    | [['-', letter], text] => asksOne letter text
    | arguments =>
      let either := arguments.takeWhile (· ≠ ['-', 'o'])
      let both := arguments.takeWhile (· ≠ ['-', 'a'])
      if arguments.length > 3 && either.length < arguments.length then
        if ← asks fuel either then return true else asks fuel (arguments.drop (either.length + 1))
      else if arguments.length > 3 && both.length < arguments.length then
        if ← asks fuel both then asks fuel (arguments.drop (both.length + 1)) else return false
      else match arguments with
        | ['!'] :: rest => return !(← asks fuel rest)
        | [one, sign, other] => asksTwo one sign.shown other
        | _ => giveUp (octets "[: unexpected operator")

/-- Tell by the status whether what arguments say holds. -/
def test : Program := fun arguments =>
  return if ← asks (arguments.length + 1) arguments then 0 else 1

/-- The same between brackets. -/
def bracket : Program := fun arguments => do
  if arguments.getLast? = some [']'] then test arguments.dropLast
  else tell (octets "[: missing ]") 2

/-! ## Reading lines -/

/-- A line of a text without what its backslashes take their meaning from, and how many characters
it takes; a backslash joins lines. -/
def takeLine (raw : Bool) : Octets → List Marked × Nat
  | [] => ([], 0)
  | '\n' :: _ => ([], 1)
  | '\\' :: '\n' :: rest =>
    if raw then ([('\\', false)], 2)
    else
      let (line, count) := takeLine raw rest
      (line, count + 2)
  | '\\' :: c :: rest =>
    let (line, count) := takeLine raw rest
    (if raw then ('\\', false) :: (c, false) :: line else (c, true) :: line, count + 2)
  | c :: rest =>
    let (line, count) := takeLine raw rest
    ((c, false) :: line, count + 1)

/-- The values that a line has for some names: a word for each, and the rest for the last one. Words
are parted by some signs. -/
def valuesFor (signs : Octets) : List Octets → List Marked → List (Octets × Octets)
  | [], _ => []
  | names, line =>
    let isSign (marked : Marked) : Bool := !marked.2 && signs.contains marked.1
    let isBlank (marked : Marked) : Bool := isSign marked && [' ', '\t', '\n'].contains marked.1
    let line := line.dropWhile isBlank
    match names with
    | [] => []
    | [name] => [(name, ((line.reverse.dropWhile isBlank).reverse).map Prod.fst)]
    | name :: others =>
      let word := line.takeWhile fun marked => !isSign marked
      let after := (line.drop word.length).dropWhile isBlank
      (name, word.map Prod.fst)
        :: valuesFor signs others (if after.head?.any isSign then after.drop 1 else after)

/-- Read a line of the input into variables. -/
def read : Program := fun arguments => do
  let raw := arguments.head? = some ['-', 'r']
  let names := if raw then arguments.drop 1 else arguments
  let text ← waitingInput
  let (line, count) := takeLine raw text
  passInput count
  (valuesFor (← partingChars) names line).forM fun (name, value) => setVariable name.shown value
  return if (text.take count).contains '\n' then 0 else 1

/-! ## Changing the shell -/

/-- The options and their letters. -/
def optionLetters : List (Char × String) :=
  [('c', "text"), ('e', "errexit"), ('f', "noglob"), ('n', "noexec"), ('s', "stdin"),
    ('u', "nounset"), ('x', "xtrace")]

/-- Turn an option on or off. -/
def turnOption (on : Bool) (option : String) : Shell Unit :=
  modify fun session =>
    let others := session.options.filter (· ≠ option)
    { session with options := if on then option :: others else others }

/-- Turn the options on or off that arguments start with, and give the others; also whether a mark
ended the options. -/
def takeOptions : List Octets → Shell (List Octets × Bool)
  | ['-', '-'] :: rest => return (rest, true)
  | ['-', 'o'] :: name :: rest => do
    turnOption true name.shown
    takeOptions rest
  | ['+', 'o'] :: name :: rest => do
    turnOption false name.shown
    takeOptions rest
  | (sign :: letter :: letters) :: rest => do
    if sign = '-' || sign = '+' then
      (letter :: letters).forM fun letter => do
        match optionLetters.lookup letter with
        | some option => turnOption (sign = '-') option
        | none => giveUp (octets "Illegal option " ++ [sign, letter])
      takeOptions rest
    else return ((sign :: letter :: letters) :: rest, false)
  | arguments => return (arguments, false)

/-- Turn options on or off, and set what the script was given. -/
def setOptions : Program := fun arguments => do
  let (rest, marked) ← takeOptions arguments
  if marked || !rest.isEmpty then modify fun session => { session with arguments := rest }
  return 0

/-- Change variables that arguments name, some of them with values. -/
def declare (change : Variable → Variable) : Program := fun arguments => do
  arguments.forM fun argument => do
    let start := argument.takeWhile (· ≠ '=')
    let name := Octets.shown start
    if argument.contains '=' then setVariable name (argument.drop (start.length + 1))
    changeVariable name change
  return 0

/-- Let the function in progress have variables for itself. -/
def makeLocal : Program := fun arguments => do
  arguments.forM fun argument => do
    let name := Octets.shown (argument.takeWhile (· ≠ '='))
    let session ← get
    if (session.locals.lookup name).isNone then
      set { session with locals := (name, Keyed.get? session.bindings name) :: session.locals }
  declare id arguments

/-- Give variables up. -/
def unset : Program := fun names => do
  names.forM fun name => do
    changeVariable name.shown id
    modify fun session => { session with
      bindings := session.bindings.filter fun entry => entry.1 ≠ name.shown }
  return 0

/-- Give up so many of the arguments of the script. -/
def shift : Program := fun arguments => do
  let count := (arguments.head?.bind naturalOf?).getD 1
  modify fun session => { session with arguments := session.arguments.drop count }
  return 0

/-- Go to a directory. -/
def changeDirectory : Program := fun arguments => do
  let path := arguments.headD ['/']
  match ← nodeAt path with
  | .ok (place, .directory) =>
    modify fun session => { session with directory := place }
    return 0
  | _ => tell (octets "cd: can't cd to " ++ path) 2

/-- Show the path of the directory. -/
def showDirectory : Program := fun _ => do
  say ('/' :: joined ['/'] ((← get).directory.map octets) ++ ['\n'])
  return 0

/-- Say what is to be done when the shell ends. -/
def trap : Program := fun arguments => do
  match arguments with
  | action :: events =>
    if events.contains (octets "EXIT") || events.contains ['0'] then
      modify fun session => { session with
        lastWords := if action = ['-'] then none else some action }
    return 0
  | [] => return 0

/-- The status that the first argument names, or the one of the command before. -/
def statusOf (arguments : List Octets) : Shell Nat := do
  return ((arguments.head?.bind naturalOf?).getD (← get).status) % 256

/-- How many loops the first argument names, at most as many as there are. -/
def loopsOf (arguments : List Octets) : Shell Nat :=
  return min (← get).loops ((arguments.head?.bind naturalOf?).getD 1)

/-- Leave loops, if there are any. -/
def leaveLoops (leave : Nat → Leave) : Program := fun arguments => do
  match ← loopsOf arguments with
  | 0 => return 0
  | count => throw (leave count)

/-- The programs of the shell whose settings stay, by their names. -/
def specialPrograms : List (String × Program) :=
  [(":", fun _ => return 0), ("break", leaveLoops .outOf), ("continue", leaveLoops .again),
    ("exit", fun arguments => do throw (.exit (← statusOf arguments))),
    ("export", declare fun held => { held with exported := true }),
    ("readonly", declare fun held => { held with fixed := true }),
    ("return", fun arguments => do throw (.back (← statusOf arguments))),
    ("set", setOptions), ("shift", shift), ("trap", trap), ("unset", unset)]

/-- The other programs of the shell. Commands beside the script have ended before it goes on, so
nothing is left to wait for. -/
def regularPrograms : List (String × Program) :=
  [("cd", changeDirectory), ("echo", echo), ("false", fun _ => return 1),
    ("local", makeLocal), ("printf", printf), ("pwd", showDirectory), ("read", read),
    ("test", test), ("[", bracket), ("true", fun _ => return 0), ("wait", fun _ => return 0)]

end LintBench.Host.Shell
