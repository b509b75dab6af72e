import LintBench.Host.Programs.Files
import LintBench.Host.Programs.LinePattern

/-!
# Programs that work on lines

Looking for lines, cutting parts out of them, putting characters in place of others,
ordering and counting lines, and showing the first or last ones.
-/

namespace LintBench.Host.Programs

open Shell

/-- Lines as a text. -/
def ofLines (lines : List Octets) : Octets := lines.flatMap (· ++ ['\n'])

/-- The content of the operands together, or of the input if there are none; complain in the name of
a program about those that are not read, and give the status. -/
def contentsOf (name : String) (operands : List Octets) : Shell (Octets × Nat) :=
  (if operands.isEmpty then [['-']] else operands).foldlM (fun (text, status) path => do
    match ← operandContent path with
    | .ok content => return (text ++ content, status)
    | .error fault => return (text, ← refuse name (path ++ octets (": " ++ faultText fault))))
    ([], 0)

/-! ## Looking for lines -/

/-- All that a pattern stands for in the rest of a line, after what was passed, the last character
first. Every time takes one from `fuel`. -/
def allFound (pattern : LinePattern) : Nat → Octets → Octets → List Octets
  | 0, _, _ => []
  | fuel + 1, passed, rest =>
    match pattern.findFrom passed rest with
    | none => []
    | some found =>
      let step := if found.text.isEmpty then found.after.take 1 else []
      let later := allFound pattern fuel
        (step.reverse ++ found.text.reverse ++ found.before.reverse) (found.after.drop step.length)
      if !found.text.isEmpty then found.text :: later
      else if found.after.isEmpty then [] else later

/-- What is shown for a file in which lines are looked for, and whether there are any; `title` is
what stands before each line. -/
def grepContent (letters : Letters) (pattern : LinePattern) (path title content : Octets) :
    Octets × Bool :=
  let folded (line : Octets) : Octets := if letters.has 'i' then line.map Char.toLower else line
  let found := (linesOfOctets content).zipIdx.filter fun (line, _) =>
    (pattern.find (folded line)).isSome != letters.has 'v'
  let shown : Octets :=
    if letters.has 'q' then []
    else if letters.has 'l' then (if found.isEmpty then [] else path ++ ['\n'])
    else if letters.has 'c' then title ++ decimal found.length ++ ['\n']
    else found.flatMap fun (line, index) =>
      let start := title ++ if letters.has 'n' then decimal (index + 1) ++ [':'] else []
      if letters.has 'o' then
        (allFound pattern (line.length + 1) [] (folded line)).flatMap (start ++ · ++ ['\n'])
      else start ++ line ++ ['\n']
  (shown, !found.isEmpty)

/-- Look for lines in which a pattern is found. The status tells whether there are any. -/
def grep : Program :=
  withLetters "grep" ['c', 'n', 'q', 'v', 'i', 'l', 'o', 'h', 'H', 'E', 'F', 's'] ['e']
    fun letters operands => do
  match letters.lookup 'e', operands with
  | none, [] => complain (octets "Usage: grep [OPTION]... PATTERNS [FILE]...") 2
  | given, operands =>
    let written := given.getD (operands.headD [])
    let paths := if given.isSome then operands else operands.drop 1
    let written := if letters.has 'i' then written.map Char.toLower else written
    let pattern? := if letters.has 'F' then some (.ofText written)
      else LinePattern.read (letters.has 'E') written
    let some pattern := pattern? | refuse "grep" (octets "Invalid pattern")
    let titled := (paths.length > 1 || letters.has 'H') && !letters.has 'h'
    let paths := if paths.isEmpty then [['-']] else paths
    let outcomes ← paths.mapM fun path => do
      match ← nodeAt path, ← operandContent path with
      | _, .ok content =>
        let (shown, any) := grepContent letters pattern path (if titled then path ++ [':'] else [])
          content
        say shown
        return if any then 0 else 1
      | _, .error fault =>
        if !letters.has 's' then
          discard (refuse "grep" (path ++ octets (": " ++ faultText fault)))
        return 2
    return if outcomes.contains 2 then 2 else if outcomes.contains 0 then 0 else 1

/-! ## Cutting lines -/

/-- Whether a list of numbers and ranges of them has a number. -/
def isListed (list : Octets) (number : Nat) : Bool :=
  (Text.splitOn ',' list).any fun item =>
    match (Text.splitOn '-' item).map naturalOf? with
    | [only] => only = some number
    | [low, high] => low.all (· ≤ number) && high.all (number ≤ ·)
    | _ => false

/-- The items that a list of numbers has. -/
def listedItems {α : Type} (list : Octets) (items : List α) : List α :=
  (items.zipIdx.filter fun (_, index) => isListed list (index + 1)).map Prod.fst

/-- Show listed characters or fields of lines. A line without a separator is shown whole. -/
def cut : Program := withLetters "cut" ['s'] ['d', 'f', 'c', 'b'] fun letters operands =>
  forContents "cut" operands fun content =>
    (linesOfOctets content).forM fun line => do
      match (letters.lookup 'c').or (letters.lookup 'b') with
      | some list => say (listedItems list line ++ ['\n'])
      | none =>
        let separator := ((letters.lookup 'd').bind List.head?).getD '\t'
        let fields := Text.splitOn separator line
        let kept := listedItems ((letters.lookup 'f').getD []) fields
        if fields.length ≥ 2 then say (joined [separator] kept ++ ['\n'])
        else if !letters.has 's' then say (line ++ ['\n'])

/-! ## Characters in place of others -/

/-- The characters from one to another. -/
def charsBetween (low high : Char) : Octets :=
  (List.range (high.toNat + 1 - low.toNat)).map fun offset => Char.ofNat (low.toNat + offset)

/-- The characters that a set lists, with ranges among them. Each takes one from `fuel`. -/
def readSet : Nat → Octets → Octets
  | 0, _ | _, [] => []
  | fuel + 1, c :: rest =>
    match takeNamed? (c :: rest), c, rest with
    | some (ranges, after), _, _ =>
      (ranges.flatMap fun (low, high) => charsBetween low high) ++ readSet fuel after
    | none, '\\', 'n' :: rest => '\n' :: readSet fuel rest
    | none, '\\', 't' :: rest => '\t' :: readSet fuel rest
    | none, '\\', d :: rest => d :: readSet fuel rest
    | none, low, '-' :: high :: rest => charsBetween low high ++ readSet fuel rest
    | none, c, rest => c :: readSet fuel rest

/-- The characters that a set lists. -/
def setOf (text : Octets) : Octets := readSet text.length text

/-- A text with one character in place of neighbours that are the same and belong to a set. -/
def squeezed (set : Octets) : Octets → Octets
  | one :: other :: rest =>
    if one = other && set.contains one then squeezed set (other :: rest)
    else one :: squeezed set (other :: rest)
  | text => text

/-- Put characters in place of others, leave them out, or let one stand for many. The last one
stands in for those that are missing. -/
def tr : Program := withLetters "tr" ['d', 's', 'c'] [] fun letters operands => do
  let inverse := letters.has 'c'
  let isIn (set : Octets) (c : Char) : Bool := set.contains c != inverse
  match operands.map setOf with
  | [set] =>
    let text ← readInput
    if letters.has 'd' then say (text.filter fun c => !isIn set c) *> return 0
    else if letters.has 's' then say (squeezed (text.filter (isIn set)) text) *> return 0
    else refuse "tr" (octets "missing operand after " ++ quoted (operands.headD []))
  | [before, after] =>
    let text := (← readInput).map fun c =>
      if inverse then (if before.contains c then c else after.getLastD c)
      else match before.reverse.idxOf? c with
        | some index => (after[before.length - 1 - index]?).getD (after.getLastD c)
        | none => c
    say (if letters.has 's' then squeezed after text else text) *> return 0
  | _ => refuse "tr" (octets "missing operand")

/-! ## Ordering and counting lines -/

/-- The number that a text starts with. -/
def leadingNumber (text : Octets) : Int :=
  let text := text.dropWhile fun c => c = ' ' || c = '\t'
  let (negative, digits) := match text with
    | '-' :: rest => (true, rest.takeWhile Char.isDigit)
    | rest => (false, rest.takeWhile Char.isDigit)
  let n : Int := (naturalOf? digits).getD 0
  if negative then -n else n

/-- The fields of a line; without a separator blanks belong to the field after them. -/
def fieldsOf (separator : Option Char) (line : Octets) : List Octets :=
  let isBlank (c : Char) : Bool := c = ' ' || c = '\t'
  match separator with
  | some c => Text.splitOn c line
  | none => (line.foldl (fun (fields : List Octets) c =>
      match fields with
      | (last :: field) :: before =>
        if isBlank c && !isBlank last then [c] :: fields else (c :: last :: field) :: before
      | _ => [[c]]) []).reverse.map List.reverse

/-- The part of a line that a key names by its first and last fields. -/
def keyOf (separator : Option Char) (key : Octets) (line : Octets) : Octets :=
  let bounds := (Text.splitOn ',' key).map fun bound =>
    (naturalOf? (bound.takeWhile Char.isDigit)).getD 1
  let fields := fieldsOf separator line
  let first := bounds.headD 1 - 1
  let last := match bounds with
    | [_, last] => last
    | _ => fields.length
  joined (separator.toList) ((fields.take last).drop first)

/-- Order lines by themselves or by a key, as numbers or in reverse if that is asked for; of lines
that are the same, one is kept if that is asked for. -/
def sort : Program := withLetters "sort" ['n', 'r', 'u', 's'] ['k', 't'] fun letters operands => do
  let (text, status) ← contentsOf "sort" operands
  let separator := (letters.lookup 't').bind List.head?
  let keyLetters := ((letters.lookup 'k').getD []).filter Char.isAlpha
  let asked (letter : Char) : Bool := letters.has letter || keyLetters.contains letter
  let key (line : Octets) : Octets := match letters.lookup 'k' with
    | some key => keyOf separator key line
    | none => line
  let less (one other : Octets) : Bool :=
    if asked 'n' then decide (leadingNumber (key one) < leadingNumber (key other))
    else (key one).lex (key other) fun c d => decide (c < d)
  let before (one other : Octets) : Bool :=
    less one other || (!less other one && !letters.has 'u' && !letters.has 's'
      && one.lex other fun c d => decide (c < d))
  let inOrder := (linesOfOctets text).mergeSort fun one other =>
    if asked 'r' then !before one other else !before other one
  let kept := if letters.has 'u' then inOrder.foldr (fun line lines =>
      match lines with
      | next :: rest => if less line next || less next line then line :: lines else line :: rest
      | [] => [line]) [] else inOrder
  say (ofLines kept)
  return if status = 0 then 0 else 2

/-- Neighbouring lines that are the same, each once with how often it stands there. -/
def countedLines : List Octets → List (Octets × Nat)
  | [] => []
  | line :: rest =>
    match countedLines rest with
    | (next, count) :: later =>
      if line = next then (line, count + 1) :: later else (line, 1) :: (next, count) :: later
    | [] => [(line, 1)]

/-- Show neighbouring lines that are the same once. -/
def uniq : Program := withLetters "uniq" ['c', 'd', 'u'] [] fun letters operands =>
  forContents "uniq" (operands.take 1) fun content => do
    let shown := (countedLines (linesOfOctets content)).filter fun (_, count) =>
      !(letters.has 'd' && count = 1) && !(letters.has 'u' && count > 1)
    say (ofLines (shown.map fun (line, count) =>
      if letters.has 'c' then padded 7 (decimal count) ++ ' ' :: line else line))

/-- Count the lines, words and bytes of a text. -/
def countsOf (letters : Letters) (content : Octets) : List Nat :=
  let isBlank (c : Char) : Bool := [' ', '\t', '\n', '\r', '\x0b', '\x0c'].contains c
  let words := (content.foldl (fun (count, inside) c =>
    (if !isBlank c && !inside then count + 1 else count, !isBlank c)) (0, false)).1
  let any := letters.has 'l' || letters.has 'w' || letters.has 'c'
  (if letters.has 'l' || !any then [content.count '\n'] else [])
    ++ (if letters.has 'w' || !any then [words] else [])
    ++ (if letters.has 'c' || !any then [content.length] else [])

/-- Show counts of lines, words and bytes, for each operand and for all of them. -/
def wc : Program := withLetters "wc" ['l', 'w', 'c'] [] fun letters operands => do
  let paths := if operands.isEmpty then [['-']] else operands
  let contents ← paths.mapM fun path => return (path, ← operandContent path)
  let read := contents.filterMap fun (_, outcome) => outcome.toOption
  let width := if (countsOf letters []).length = 1 && paths.length = 1 then 1
    else if operands.isEmpty then 7 else (decimal read.flatten.length).length
  let line (counts : List Nat) (name : Octets) : Octets :=
    joined [' '] (counts.map fun count => padded width (decimal (count : Nat)))
      ++ (if operands.isEmpty then [] else ' ' :: name) ++ ['\n']
  let status ← forEach contents fun (path, outcome) => do
    match outcome with
    | .ok content => say (line (countsOf letters content) path) *> return 0
    | .error fault => refuse "wc" (path ++ octets (": " ++ faultText fault))
  if paths.length > 1 then say (line (countsOf letters read.flatten) (octets "total"))
  return status

/-! ## First and last lines -/

/-- Arguments with the letter of a count that is written without it. -/
def withCountLetter : List Octets → List Octets
  | ('-' :: c :: digits) :: rest =>
    (if c.isDigit then ['-', 'n', c] ++ digits else '-' :: c :: digits) :: rest
  | arguments => arguments

/-- Show a part of each operand, in a title the path if there are several. -/
def showParts (name : String) (part : Letters → Octets → Octets) : Program := fun arguments =>
  withLetters name ['q'] ['n', 'c'] (fun letters operands =>
    forEach (if operands.isEmpty then [['-']] else operands).zipIdx fun (path, index) => do
      match ← operandContent path with
      | .ok content =>
        let title := octets "==> " ++ path ++ octets " <==\n"
        say ((if operands.length > 1 then (if index > 0 then '\n' :: title else title) else [])
          ++ part letters content)
        return 0
      | .error fault =>
        refuse name (octets "cannot open " ++ quoted path
          ++ octets (" for reading: " ++ faultText fault))) (withCountLetter arguments)

/-- A text in lines with their ends. -/
def linesWithEnds (text : Octets) : List Octets :=
  let lines := (linesOfOctets text).map (· ++ ['\n'])
  if text.getLast? = some '\n' then lines else
    lines.dropLast ++ (lines.getLast?.map List.dropLast).toList

/-- Show the first lines or bytes of each operand. -/
def head : Program := showParts "head" fun letters content =>
  match letters.lookup 'c' with
  | some count => content.take ((naturalOf? count).getD 0)
  | none => ((linesWithEnds content).take (((letters.lookup 'n').bind naturalOf?).getD 10)).flatten

/-- The last so many items, or those from the so manyth on if a sign says so. -/
def lastItems {α : Type} (count : Octets) (items : List α) : List α :=
  match count with
  | '+' :: digits => items.drop ((naturalOf? digits).getD 1 - 1)
  | digits => items.drop (items.length - (naturalOf? digits).getD 10)

/-- Show the last lines or bytes of each operand. -/
def tail : Program := showParts "tail" fun letters content =>
  match letters.lookup 'c' with
  | some count => lastItems count content
  | none => (lastItems ((letters.lookup 'n').getD ['1', '0']) (linesWithEnds content)).flatten

end LintBench.Host.Programs
