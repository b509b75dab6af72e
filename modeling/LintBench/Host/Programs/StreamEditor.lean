import LintBench.Host.Programs.Files
import LintBench.Host.Programs.LinePattern

/-!
# The stream editor

A script of edits is carried out for each line. An edit may be for certain lines only:
one by its number or by what is in it, the last one, or those from one to another.
-/

namespace LintBench.Host.Programs

open Shell

/-! ## Edits -/

/-- What picks a line. -/
inductive Address where
  /-- Its number. -/
  | number (n : Nat)
  /-- That it is the last one. -/
  | last
  /-- That a pattern is found in it. -/
  | like (pattern : LinePattern)

/-- A part of what comes in place of something that was found. -/
inductive Replacement where
  /-- A character. -/
  | char (c : Char)
  /-- All that was found. -/
  | whole
  /-- What was remembered, counted from one. -/
  | part (number : Nat)

/-- What is done with a line. -/
inductive Action where
  /-- It is left out. -/
  | drop
  /-- It is shown. -/
  | show
  /-- Its number is shown. -/
  | showNumber
  /-- A text is shown after it. -/
  | append (text : Octets)
  /-- A text is shown before it. -/
  | insert (text : Octets)
  /-- A text is shown in place of it. -/
  | change (text : Octets)
  /-- Characters come in place of others. -/
  | translate (before after : Octets)
  /-- It is the last one. -/
  | quit
  /-- The next line is added to it. -/
  | join
  /-- It is kept, in place of what was or after that. -/
  | keep (appends : Bool)
  /-- What was kept comes in place of it, or is added to it. -/
  | fetch (appends : Bool)
  /-- It is exchanged with what was kept. -/
  | exchange
  /-- Something comes in place of what is found in it, from the so manyth time on: once, or every
  time. It may be shown then. -/
  | replace (pattern : LinePattern) (parts : List Replacement) (first : Nat)
      (everywhere shows : Bool)

/-- An edit. -/
structure Edit where
  /-- The line that it is for, or the first one. -/
  first : Option Address
  /-- The last line that it is for. -/
  last : Option Address
  /-- Whether it is for the other lines instead. -/
  others : Bool
  /-- What is done. -/
  action : Action

/-! ## Reading -/

/-- The text up to a sign that has no backslash before it, and what is after the sign. A backslash
before the sign is left out. -/
def takeUpTo (sign : Char) : Octets → Option (Octets × Octets)
  | '\\' :: c :: rest =>
    (takeUpTo sign rest).map fun (text, after) =>
      (if c = sign then c :: text else '\\' :: c :: text, after)
  | c :: rest =>
    if c = sign then some ([], rest)
    else (takeUpTo sign rest).map fun (text, after) => (c :: text, after)
  | [] => none

/-- Read what picks a line, if something does. -/
def readAddress (extended : Bool) (text : Octets) : Option (Option Address × Octets) :=
  match text with
  | '$' :: rest => some (some .last, rest)
  | '/' :: rest => do
    let (pattern, after) ← takeUpTo '/' rest
    return (some (.like (← LinePattern.read extended pattern)), after)
  | text =>
    let digits := text.takeWhile Char.isDigit
    some ((naturalOf? digits).map .number, text.drop digits.length)

/-- Read what comes in place of something. -/
def readReplacement : Octets → List Replacement
  | '\\' :: 'n' :: rest => .char '\n' :: readReplacement rest
  | '\\' :: c :: rest =>
    (if c.isDigit then .part (c.toNat - '0'.toNat) else .char c) :: readReplacement rest
  | '&' :: rest => .whole :: readReplacement rest
  | c :: rest => .char c :: readReplacement rest
  | [] => []

/-- Read what is done, and give the rest of the script. -/
def readAction (extended : Bool) (text : Octets) : Option (Action × Octets) :=
  let shown (text : Octets) : Octets × Octets :=
    let text := match text with
      | '\\' :: '\n' :: rest => rest
      | text => text.dropWhile (· = ' ')
    let line := text.takeWhile (· ≠ '\n')
    (line, text.drop line.length)
  match text with
  | 'd' :: rest => some (.drop, rest)
  | 'p' :: rest => some (.show, rest)
  | '=' :: rest => some (.showNumber, rest)
  | 'q' :: rest => some (.quit, rest)
  | 'N' :: rest => some (.join, rest)
  | 'h' :: rest => some (.keep false, rest)
  | 'H' :: rest => some (.keep true, rest)
  | 'g' :: rest => some (.fetch false, rest)
  | 'G' :: rest => some (.fetch true, rest)
  | 'x' :: rest => some (.exchange, rest)
  | 'c' :: rest => some (.change (shown rest).1, (shown rest).2)
  | 'y' :: sign :: rest => do
    let (before, rest) ← takeUpTo sign rest
    let (after, rest) ← takeUpTo sign rest
    return (.translate before after, rest)
  | 'a' :: rest => some (.append (shown rest).1, (shown rest).2)
  | 'i' :: rest => some (.insert (shown rest).1, (shown rest).2)
  | 's' :: sign :: rest => do
    let (pattern, rest) ← takeUpTo sign rest
    let (replacement, rest) ← takeUpTo sign rest
    let flags := rest.takeWhile fun c => c.isDigit || c = 'g' || c = 'p'
    let first := (naturalOf? (flags.filter Char.isDigit)).getD 1
    let parts := readReplacement replacement
    return (.replace (← LinePattern.read extended pattern) parts first (flags.contains 'g')
      (flags.contains 'p'), rest.drop flags.length)
  | _ => none

/-- Read a script of edits. Each takes one from `fuel`. -/
def readEdits (extended : Bool) : Nat → Octets → Option (List Edit)
  | 0, _ => none
  | fuel + 1, text => do
    let start := text.dropWhile fun c => [' ', ';', '\n'].contains c
    if start.isEmpty then return []
    else
      let (first, rest) ← readAddress extended start
      let (final, rest) ← match rest with
        | ',' :: rest => readAddress extended rest
        | rest => some (none, rest)
      let (others, rest) := match rest with
        | '!' :: rest => (true, rest)
        | rest => (false, rest)
      let (action, rest) ← readAction extended (rest.dropWhile (· = ' '))
      return { first, last := final, others, action } :: (← readEdits extended fuel rest)

/-! ## Editing -/

/-- What comes in place of something that was found. -/
def replacementFor (found : LinePattern.Found) (parts : List Replacement) : Octets :=
  parts.flatMap fun
    | .char c => [c]
    | .whole => found.text
    | .part 0 => found.text
    | .part number => (found.remembered.lookup number).getD []

/-- Put something in place of what is found in the rest of a line, after what was passed, the last
character first. `seen` counts how often it was found, and `touches` says that it was found just
before, so that nothing empty is found here. Every time takes one from `fuel`. -/
def replaceFrom (pattern : LinePattern) (parts : List Replacement) (first : Nat)
    (everywhere : Bool) : Nat → Nat → Bool → Octets → Octets → Octets
  | 0, _, _, _, rest => rest
  | fuel + 1, seen, touches, passed, rest =>
    match pattern.findFrom passed rest with
    | none => rest
    | some found =>
      let between := found.before.drop passed.length
      let isEmpty := found.text.isEmpty
      let isRepeated := isEmpty && between.isEmpty && touches
      let seen := if isRepeated then seen else seen + 1
      let shown := if isRepeated then []
        else if seen = first || (everywhere && seen > first) then replacementFor found parts
        else found.text
      let (stepped, after) := if isEmpty then (found.after.take 1, found.after.drop 1)
        else ([], found.after)
      let passed := stepped.reverse ++ found.text.reverse ++ found.before.reverse
      if isEmpty && found.after.isEmpty then between ++ shown
      else between ++ shown ++ stepped
        ++ replaceFrom pattern parts first everywhere fuel seen (!isEmpty) passed after

/-- A text while it is edited, line by line. -/
structure Editing where
  /-- What the line has become, unless it is left out. -/
  line : Option Octets
  /-- Its number. -/
  number : Nat
  /-- The lines after it. -/
  rest : List Octets
  /-- What is kept. -/
  held : Octets := []
  /-- The lines that are shown before it, the last one first. -/
  before : List Octets := []
  /-- The lines that are shown after it, the last one first. -/
  after : List Octets := []
  /-- For each edit so far whether it is for the next lines too, the last one first. -/
  going : List Bool := []
  /-- Whether it is the last line that is edited. -/
  quits : Bool := false

/-- Whether something picks a line of a number. -/
def Address.picks (number : Nat) (isLast : Bool) (line : Octets) : Address → Bool
  | .number n => n = number
  | .last => isLast
  | .like pattern => (pattern.find line).isSome

/-- Whether an edit is for a line, and whether it is for the next one as well unless that is picked
anew; `going` says that it was for the line before and goes on. -/
def Edit.isFor (edit : Edit) (going : Bool) (number : Nat) (isLast : Bool) (line : Octets) :
    Bool × Bool :=
  let starts := edit.first.all (·.picks number isLast line)
  match edit.last with
  | none => (starts != edit.others, false)
  | some final =>
    let ends := match final with
      | .number n => n ≤ number
      | final => going && final.picks number isLast line
    let within := going || starts
    (within != edit.others, within && !ends)

/-- Do something with a line. -/
def Action.apply (editing : Editing) (line : Octets) : Action → Editing
  | .drop => { editing with line := none }
  | .show => { editing with before := line :: editing.before }
  | .showNumber => { editing with before := decimal editing.number :: editing.before }
  | .append text => { editing with after := text :: editing.after }
  | .insert text => { editing with before := text :: editing.before }
  | .change text => { editing with line := none, before := text :: editing.before }
  | .translate before after =>
    let translated := line.map fun c => ((before.zip after).lookup c).getD c
    { editing with line := some translated }
  | .quit => { editing with quits := true }
  | .join =>
    match editing.rest with
    | next :: rest =>
      { editing with line := some (line ++ '\n' :: next), rest, number := editing.number + 1 }
    | [] => { editing with quits := true }
  | .keep appends => { editing with held := if appends then editing.held ++ '\n' :: line else line }
  | .fetch appends =>
    { editing with line := some (if appends then line ++ '\n' :: editing.held else editing.held) }
  | .exchange => { editing with line := some editing.held, held := line }
  | .replace pattern parts first everywhere shows =>
    let changed := replaceFrom pattern parts first everywhere (line.length + 2) 0 false [] line
    let before := if shows && changed ≠ line then changed :: editing.before else editing.before
    { editing with line := some changed, before }

/-- Carry an edit out if it is for a line; it is given whether it goes on from the line before. -/
def Edit.apply (editing : Editing) (edit : Edit × Bool) : Editing :=
  match editing.line with
  | none => { editing with going := edit.2 :: editing.going }
  | some line =>
    let (isFor, going) := edit.1.isFor edit.2 editing.number editing.rest.isEmpty line
    let editing := { editing with going := going :: editing.going }
    if isFor && !editing.quits then edit.1.action.apply editing line else editing

/-- Edit the lines from a number on, with what is kept and what is known of each edit; `quiet` says
that a line is not shown by itself. Every line takes one from `fuel`. -/
def editFrom (edits : List Edit) (quiet : Bool) :
    Nat → Nat → Octets → List Bool → List Octets → List Octets
  | fuel + 1, number, held, going, line :: rest =>
    let editing := (edits.zip going).foldl Edit.apply { line := some line, number, rest, held }
    editing.before.reverse ++ (if quiet then [] else editing.line.toList) ++ editing.after.reverse
      ++ if editing.quits then [] else
        editFrom edits quiet fuel (editing.number + 1) editing.held editing.going.reverse
          editing.rest
  | _, _, _, _, _ => []

/-- Edit a text. An end that its last line lacks stays lacking. -/
def editText (edits : List Edit) (quiet : Bool) (text : Octets) : Octets :=
  let lines := linesOfOctets text
  let lines := editFrom edits quiet lines.length 1 [] (edits.map fun _ => false) lines
  let edited := lines.flatMap fun line => line ++ ['\n']
  if text.getLast? = some '\n' then edited else edited.dropLast

/-- Edit files, or the input. -/
def sed : Program := withLetters "sed" ['n', 'i', 'E', 'r'] ['e'] fun letters operands => do
  let given := (letters.filter fun entry => entry.1 = 'e').map Prod.snd
  let (scripts, paths) := match given, operands with
    | [], script :: paths => ([script], paths)
    | scripts, paths => (scripts, paths)
  let script := joined ['\n'] scripts
  match readEdits (letters.has 'E' || letters.has 'r') (script.length + 2) script with
  | none => refuse "sed" (octets "-e expression #1, char 1: unknown command")
  | some edits =>
    let edit := editText edits (letters.has 'n')
    let cannotRead (path : Octets) (fault : FileFault) : Shell Nat := do
      return 2 * (← refuse "sed" (octets "can't read " ++ path ++ octets (": " ++ faultText fault)))
    if letters.has 'i' then
      forEach paths fun path => do
        match ← nodeAt path with
        | .ok (place, .file content) =>
          changeMachine (·.store place (edit (.ofBytes content)))
          return 0
        | .ok _ => refuse "sed" (octets "couldn't edit " ++ path ++ octets ": not a regular file")
        | .error fault => cannotRead path fault
    else
      let contents ← (if paths.isEmpty then [['-']] else paths).mapM fun path => do
        match ← operandContent path with
        | .ok content => return (content, 0)
        | .error fault => return ([], ← cannotRead path fault)
      say (edit (contents.map Prod.fst).flatten)
      return if contents.all (·.2 = 0) then 0 else 2

end LintBench.Host.Programs
