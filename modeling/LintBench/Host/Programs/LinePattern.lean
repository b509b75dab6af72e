import LintBench.Host.Octets

/-!
# Patterns of lines

What is looked for in lines: characters, classes of them, repeated parts, choices,
and parts that are remembered. Patterns are written in two ways, which differ in the
signs that need a backslash. A part is repeated as often as the rest of the pattern
allows.
-/

namespace LintBench.Host.Programs

/-- A pattern of lines. -/
inductive LinePattern where
  /-- Nothing. -/
  | nothing
  /-- One character. -/
  | char (c : Char)
  /-- Any one character. -/
  | anyChar
  /-- A character in one of the ranges, or in none of them. -/
  | oneOf (excluded : Bool) (ranges : List (Char × Char))
  /-- The start of the line. -/
  | start
  /-- The end of the line. -/
  | stop
  /-- One part after the other. -/
  | row (first rest : LinePattern)
  /-- One of two parts. -/
  | either (first second : LinePattern)
  /-- A part again and again, at least and at most so many times. -/
  | times (least : Nat) (most : Option Nat) (part : LinePattern)
  /-- A part that is remembered under a number. -/
  | kept (number : Nat) (part : LinePattern)
  /-- What is remembered under a number. -/
  | again (number : Nat)
deriving Repr, Inhabited

/-- The ranges of characters that have a name. -/
def namedRanges : List (String × List (Char × Char)) :=
  [("alnum", [('a', 'z'), ('A', 'Z'), ('0', '9')]), ("alpha", [('a', 'z'), ('A', 'Z')]),
    ("blank", [(' ', ' '), ('\t', '\t')]), ("digit", [('0', '9')]), ("lower", [('a', 'z')]),
    ("punct", [('!', '/'), (':', '@'), ('[', Char.ofNat 96), ('\x7b', '~')]),
    ("space", [('\t', '\r'), (' ', ' ')]), ("upper", [('A', 'Z')])]

/-- The ranges that a text starts with the name of, and the text after that. -/
def takeNamed? (text : Octets) : Option (List (Char × Char) × Octets) :=
  namedRanges.findSome? fun (name, ranges) =>
    let written := "[:".toList ++ name.toList ++ ":]".toList
    if written.isPrefixOf text then some (ranges, text.drop written.length) else none

namespace LinePattern

/-! ## Reading -/

/-- What a written pattern is made of. -/
inductive Token where
  /-- A part. -/
  | part (part : LinePattern)
  /-- How often the part before stands. -/
  | times (least : Nat) (most : Option Nat)
  /-- The start of what is remembered. -/
  | opens
  /-- The end of what is remembered. -/
  | closes
  /-- The sign between choices. -/
  | or

/-- The ranges that a text between brackets lists, and the text after the closing bracket. A bracket
that comes first is listed. Every character takes one from `fuel`. -/
def readRanges : Nat → Bool → Octets → Option (List (Char × Char) × Octets)
  | fuel + 1, isFirst, c :: rest =>
    let add (ranges : List (Char × Char)) (rest : Octets) :
        Option (List (Char × Char) × Octets) :=
      (readRanges fuel false rest).map fun (others, after) => (ranges ++ others, after)
    if c = ']' && !isFirst then some ([], rest)
    else match takeNamed? (c :: rest), rest with
      | some (ranges, after), _ => add ranges after
      | none, '-' :: high :: after =>
        if high = ']' then add [(c, c)] rest else add [(c, high)] after
      | none, _ => add [(c, c)] rest
  | _, _, _ => none

/-- How often a part stands by what is written between braces. -/
def readTimes (text : Octets) : Option Token :=
  match Text.splitOn ',' text with
  | [only] => (naturalOf? only).map fun n => .times n (some n)
  | [least, most] => (naturalOf? least).map fun n => .times n (naturalOf? most)
  | _ => none

/-- What a sign stands for, if it has a meaning, and the text after it. -/
def readSign (sign : Char) (rest : Octets) : Option (Token × Octets) :=
  match sign with
  | '(' => some (.opens, rest)
  | ')' => some (.closes, rest)
  | '|' => some (.or, rest)
  | '+' => some (.times 1 none, rest)
  | '?' => some (.times 0 (some 1), rest)
  | '\x7b' =>
    let inside := rest.takeWhile fun c => c.isDigit || c = ','
    let after := (rest.drop inside.length).dropWhile (· = '\\')
    (readTimes inside).map fun token => (token, after.drop 1)
  | _ => none

/-- Read what a written pattern is made of; `isFirst` says that no part is before, and `extended`
that signs have their meanings without a backslash. Every character takes one from `fuel`. -/
def readTokens (extended : Bool) : Nat → Bool → Octets → Option (List Token)
  | 0, _, _ => none
  | _, _, [] => some []
  | fuel + 1, isFirst, c :: rest =>
    let next (token : Token) (rest : Octets) : Option (List Token) :=
      let opens : Bool := match token with
        | .opens | .or | .part .start => true
        | _ => false
      (readTokens extended fuel opens rest).map (token :: ·)
    let closes : Bool := rest.isEmpty || ['\\', ')'].isPrefixOf rest
      || (extended && rest.head? = some ')')
    match c, rest with
    | '\\', c :: rest =>
      match if extended then none else readSign c rest with
      | some (token, after) => next token after
      | none =>
        if c = 'n' then next (.part (.char '\n')) rest
        else if c.isDigit then next (.part (.again (c.toNat - '0'.toNat))) rest
        else next (.part (.char c)) rest
    | '\\', [] => none
    | '.', rest => next (.part .anyChar) rest
    | '^', rest => next (.part (if isFirst then .start else .char '^')) rest
    | '$', rest => next (.part (if closes then .stop else .char '$')) rest
    | '*', rest => next (if isFirst then .part (.char '*') else .times 0 none) rest
    | '[', rest =>
      let (excluded, inside) := match rest with
        | '^' :: inside => (true, inside)
        | inside => (false, inside)
      match readRanges (inside.length + 1) true inside with
      | some (ranges, after) => next (.part (.oneOf excluded ranges)) after
      | none => none
    | c, rest =>
      match if extended then readSign c rest else none with
      | some (token, after) => next token after
      | none => next (.part (.char c)) rest

/-- A part as often as the signs after it say. -/
def readRepeated : LinePattern → List Token → LinePattern × List Token
  | part, .times least most :: rest => readRepeated (.times least most part) rest
  | part, rest => (part, rest)

mutual

/-- Read choices up to a closing bracket or the end; what is remembered is numbered from a number
on, and the next number is given. Each call takes one from `fuel`, here and below. -/
def readChoices : Nat → Nat → List Token → Option (LinePattern × Nat × List Token)
  | 0, _, _ => none
  | fuel + 1, number, tokens => do
    let (first, number, rest) ← readParts fuel number tokens
    match rest with
    | .or :: rest =>
      let (second, number, rest) ← readChoices fuel number rest
      return (.either first second, number, rest)
    | rest => return (first, number, rest)

/-- Read parts up to a bracket, a sign between choices, or the end. -/
def readParts : Nat → Nat → List Token → Option (LinePattern × Nat × List Token)
  | 0, _, _ => none
  | fuel + 1, number, tokens => do
    let add (part : LinePattern) (number : Nat) (rest : List Token) :
        Option (LinePattern × Nat × List Token) := do
      let (part, rest) := readRepeated part rest
      let (others, number, rest) ← readParts fuel number rest
      return (.row part others, number, rest)
    match tokens with
    | .part part :: rest => add part number rest
    | .opens :: rest =>
      match ← readChoices fuel (number + 1) rest with
      | (inner, next, .closes :: rest) => add (.kept number inner) next rest
      | _ => none
    | .times _ _ :: _ => none
    | rest => return (.nothing, number, rest)

end

/-- Read a pattern. -/
def read (extended : Bool) (text : Octets) : Option LinePattern := do
  let tokens ← readTokens extended (text.length + 1) true text
  match ← readChoices (2 * tokens.length + 2) 1 tokens with
  | (pattern, _, []) => return pattern
  | _ => none

/-- The pattern that stands for a text itself. -/
def ofText (text : Octets) : LinePattern :=
  text.foldr (fun c pattern => .row (.char c) pattern) .nothing

/-! ## Finding -/

/-- What was found in a line. -/
structure Found where
  /-- What is before it. -/
  before : Octets
  /-- What the pattern stands for. -/
  text : Octets
  /-- What is after it. -/
  after : Octets
  /-- What is remembered, by number. -/
  remembered : List (Nat × Octets)
deriving Repr, Inhabited

/-- How far a line has been matched. -/
structure Match where
  /-- What was matched, the last character first. -/
  taken : Octets := []
  /-- What is left of the line. -/
  rest : Octets
  /-- What is remembered, by number. -/
  remembered : List (Nat × Octets) := []

/-- Whether a part that stands for one character admits a given one. -/
def admits : LinePattern → Char → Bool
  | .char c, d => c = d
  | .anyChar, d => d ≠ '\n'
  | .oneOf excluded ranges, d => (ranges.any fun (low, high) => low ≤ d && d ≤ high) != excluded
  | _, _ => false

/-- Match a pattern and then what comes after it; `atStart` says that nothing of the line was
before. Each call takes one from `fuel`. -/
def matchFrom (atStart : Bool) : Nat → LinePattern → Match → (Match → Option Match) →
    Option Match
  | 0, _, _, _ => none
  | fuel + 1, pattern, found, next =>
    match pattern with
    | .nothing => next found
    | .start => if atStart && found.taken.isEmpty then next found else none
    | .stop => if found.rest.isEmpty then next found else none
    | .row first rest =>
      matchFrom atStart fuel first found fun found => matchFrom atStart fuel rest found next
    | .either first second =>
      (matchFrom atStart fuel first found next).orElse fun _ =>
        matchFrom atStart fuel second found next
    | .times least most part =>
      let more := if most = some 0 then none
        else matchFrom atStart fuel part found fun later =>
          if later.rest.length = found.rest.length then none
          else matchFrom atStart fuel (.times (least - 1) (most.map (· - 1)) part) later next
      more.orElse fun _ => if least = 0 then next found else none
    | .kept number part =>
      matchFrom atStart fuel part found fun later =>
        let text := (later.taken.take (later.taken.length - found.taken.length)).reverse
        next { later with remembered := (number, text) :: later.remembered }
    | .again number =>
      match found.remembered.lookup number with
      | some text =>
        if text.isPrefixOf found.rest then
          next { found with
            taken := text.reverse ++ found.taken, rest := found.rest.drop text.length }
        else none
      | none => none
    | part =>
      match found.rest with
      | c :: rest =>
        if admits part c then next { found with taken := c :: found.taken, rest } else none
      | [] => none

/-- How many parts a pattern has. -/
def size : LinePattern → Nat
  | .row first rest => first.size + rest.size + 1
  | .either first second => first.size + second.size + 1
  | .times least _ part => (least + 1) * (part.size + 1)
  | .kept _ part => part.size + 1
  | _ => 1

/-- Match a pattern with what is left of a line, after the characters of it that were passed, the
last one first. -/
def foundAt (pattern : LinePattern) (passed rest : Octets) : Option Found :=
  let fuel := (pattern.size + 2) * (rest.length + 2)
  (matchFrom passed.isEmpty fuel pattern { rest } some).map fun found => {
    before := passed.reverse, text := found.taken.reverse, after := found.rest
    remembered := found.remembered }

/-- Find a pattern in what is left of a line. -/
def findFrom (pattern : LinePattern) : Octets → Octets → Option Found
  | passed, [] => pattern.foundAt passed []
  | passed, c :: rest =>
    (pattern.foundAt passed (c :: rest)).orElse fun _ => findFrom pattern (c :: passed) rest

/-- Find a pattern in a line. -/
def find (pattern : LinePattern) (line : Octets) : Option Found := pattern.findFrom [] line

end LinePattern

end LintBench.Host.Programs
