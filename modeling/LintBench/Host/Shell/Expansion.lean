import LintBench.Host.Shell.Arithmetic

/-!
# Expanding words

What is put in place of the fragments of a word: the values of variables, what
scripts write, and the values of expressions. The result is a row of characters that
know whether they were quoted and whether blanks among them part arguments; such a
row becomes any number of arguments.
-/

namespace LintBench.Host.Shell

/-- A piece of an expanded word. -/
inductive Bit where
  /-- A character; `parts` says that it can part arguments. -/
  | char (c : Char) (quoted parts : Bool)
  /-- Quotes: an argument stands here though nothing may be in it. -/
  | mark
  /-- The end of an argument. -/
  | ending
deriving DecidableEq, Repr, Inhabited

/-- A character, and whether it was quoted. -/
abbrev Marked := Char × Bool

/-- The bits of a value. -/
def valueBits (quoted : Bool) (text : Octets) : List Bit :=
  (if quoted then [.mark] else []) ++ text.map (.char · quoted !quoted)

/-- The characters of bits, with spaces between arguments. -/
def markedOfBits (bits : List Bit) : List Marked :=
  bits.filterMap fun
    | .char c quoted _ => some (c, quoted)
    | .mark => none
    | .ending => some (' ', true)

/-- The text of bits. -/
def textOfBits (bits : List Bit) : Octets := (markedOfBits bits).map Prod.fst

/-! ## Patterns -/

/-- The pattern of marked characters: what was quoted stands for itself. -/
def patternOf (text : List Marked) : NamePattern :=
  NamePattern.read <| text.flatMap fun (c, quoted) =>
    if quoted && NamePattern.isWild [c] then ['[', c, ']'] else [c]

/-- The length of the longest or shortest end of a text that a pattern stands for. -/
def endLength? (longest : Bool) (pattern : NamePattern) (text : Octets) : Option Nat :=
  let accepted := NamePattern.acceptedEnds pattern text
  if longest then (accepted.findIdx? id).map (text.length - ·) else accepted.reverse.findIdx? id

/-- The length of the longest or shortest start of a text that a pattern stands for. -/
def startLength? (longest : Bool) (pattern : NamePattern) (text : Octets) : Option Nat :=
  endLength? longest pattern.reverse text.reverse

/-- A text without the end or start that a pattern stands for. -/
def without (atEnd longest : Bool) (pattern : NamePattern) (text : Octets) : Octets :=
  if atEnd then text.take (text.length - (endLength? longest pattern text).getD 0)
  else text.drop ((startLength? longest pattern text).getD 0)

/-- A text with something in place of the parts that a pattern stands for. Every character takes one
from `fuel`. -/
def replaced (everywhere : Bool) (pattern : NamePattern) (replacement : Octets) :
    Nat → Octets → Octets
  | fuel + 1, c :: rest =>
    match startLength? true pattern (c :: rest) with
    | some (length + 1) =>
      let after := (c :: rest).drop (length + 1)
      replacement ++
        if everywhere then replaced everywhere pattern replacement fuel after else after
    | _ => c :: replaced everywhere pattern replacement fuel rest
  | _, text => text

/-! ## Values -/

/-- What runs a script in a word and gives what it wrote. -/
abbrev OutputOf := Command → Shell Octets

/-- What a name in a word stands for: one value or none, or any number of values. -/
inductive Named where
  /-- One value, or none. -/
  | one (value : Option Octets)
  /-- Any number of values. Between quotes they make one argument if there is something to join them
  with. -/
  | many (separator : Option Octets) (values : List Octets)
deriving DecidableEq, Repr, Inhabited

/-- The characters that part arguments. -/
def partingChars : Shell Octets := do return (← valueOf "IFS").getD [' ', '\t', '\n']

/-- What a name stands for. -/
def namedOf (name : String) : Shell Named := do
  let arguments := (← get).arguments
  match name with
  | "@" => return .many none arguments
  | "*" => return .many (some ((← partingChars).take 1)) arguments
  | name => return .one (← valueOf name)

/-- The values as one text. -/
def Named.text : Named → Octets
  | .one value => value.getD []
  | .many separator values => joined (separator.getD [' ']) values

/-- Whether there is a value; an empty one may count as none. -/
def Named.isSet (ifEmpty : Bool) : Named → Bool
  | .one none => false
  | .one (some value) => !(ifEmpty && value.isEmpty)
  | .many _ values => !values.isEmpty && !(ifEmpty && values.all List.isEmpty)

/-- Change each value. -/
def Named.map (change : Octets → Octets) : Named → Named
  | .one value => .one (value.map change)
  | .many separator values => .many separator (values.map change)

/-- The bits of what a name stands for; `whole` says that the word makes one argument. -/
def Named.bits (quoted whole : Bool) : Named → List Bit
  | .one value => valueBits quoted (value.getD [])
  | .many separator values =>
    if whole || (quoted && separator.isSome) then
      valueBits quoted (joined (separator.getD [' ']) values)
    else List.intercalate [.ending] (values.map (valueBits quoted))

/-- Look that there is a value if there has to be one. -/
def demandSet (name : String) (named : Named) : Shell Unit := do
  if named = .one none && (← isOn "nounset") then
    let why := match (← get).dialect with
      | .plain => ": parameter not set"
      | .extended => ": unbound variable"
    giveUp (octets (name ++ why))

/-- What a script wrote, without the ends of lines after it. -/
def trimmedOutput (text : Octets) : Octets :=
  ((text.filter (· ≠ '\x00')).reverse.dropWhile (· = '\n')).reverse

/-! ## Words -/

mutual

/-- Expand a word. `whole` says that it makes one argument, and `inner` that it stands in the braces
of a variable, so that blanks written in it part arguments. Each call takes one from `fuel`. -/
def expandWord (run : OutputOf) : Nat → Bool → Bool → Word → Shell (List Bit)
  | fuel + 1, whole, inner, fragment :: rest => do
    let bits ← match fragment with
      | .text quoted text =>
        pure ((if quoted then [.mark] else []) ++ text.map (.char · quoted (inner && !quoted)))
      | .output quoted script => valueBits quoted <$> trimmedOutput <$> run script
      | .number quoted expression => do
        let text ← textOfBits <$> expandWord run fuel true false expression
        valueBits quoted <$> decimal <$> valueOfSum text
      | .variable quoted name use => expandVariable run fuel whole quoted name use
    return bits ++ (← expandWord run fuel whole inner rest)
  | _, _, _, _ => return []

/-- Expand a variable. -/
def expandVariable (run : OutputOf) :
    Nat → Bool → Bool → String → VariableUse → Shell (List Bit)
  | 0, _, _, _, _ => return []
  | fuel + 1, whole, quoted, name, use => do
    let word (word : Word) : Shell (List Bit) := expandWord run fuel whole (!quoted) word
    let text (word : Word) : Shell Octets := textOfBits <$> expandWord run fuel true false word
    let pattern (word : Word) : Shell NamePattern :=
      patternOf <$> markedOfBits <$> expandWord run fuel true false word
    let named ← namedOf name
    let changed (change : Octets → Octets) : Shell (List Bit) := do
      demandSet name named
      return (named.map change).bits quoted whole
    match use with
    | .value => changed id
    | .capital => changed (List.map Char.toUpper)
    | .without atEnd longest other => changed (without atEnd longest (← pattern other))
    | .replaced everywhere other replacement =>
      let pattern ← pattern other
      let replacement ← text replacement
      changed fun value => replaced everywhere pattern replacement value.length value
    | .length =>
      demandSet name named
      return valueBits quoted (decimal named.text.length)
    | .orElse ifEmpty other =>
      if named.isSet ifEmpty then return named.bits quoted whole else word other
    | .orFail ifEmpty why =>
      if named.isSet ifEmpty then return named.bits quoted whole
      else
        let told ← text why
        let usual := if ifEmpty then "parameter not set or null" else "parameter not set"
        giveUp (octets (name ++ ": ") ++ if told.isEmpty then octets usual else told)
    | .instead ifEmpty other => if named.isSet ifEmpty then word other else return []
    | .orSet ifEmpty other =>
      if named.isSet ifEmpty then return named.bits quoted whole
      else
        let value ← text other
        setVariable name value
        return valueBits quoted value

end

/-- How many calls expanding a word takes at most. -/
def deepestWord : Nat := 100000

/-- A word with the path of a directory in place of the sign for it. -/
def withHome (word : Word) : Shell Word := do
  match word, ← valueOf "HOME" with
  | .text false ('~' :: rest) :: others, some home =>
    if rest.head? = some '/' || (rest.isEmpty && others.isEmpty) then
      return .text true home :: .text false rest :: others
    else return word
  | word, _ => return word

/-- The bits of a word that makes one argument. -/
def expandWhole (run : OutputOf) (word : Word) : Shell (List Bit) := do
  expandWord run deepestWord true false (← withHome word)

/-- The text of a word that makes one argument. -/
def expandText (run : OutputOf) (word : Word) : Shell Octets := textOfBits <$> expandWhole run word

/-- The pattern of a word. -/
def expandPattern (run : OutputOf) (word : Word) : Shell NamePattern :=
  patternOf <$> markedOfBits <$> expandWhole run word

/-! ## Arguments -/

/-- Part bits into arguments at some characters, of which blanks count once: those that are
complete, the last one first, and the one that was begun, its last character first. -/
def partBits (signs : Octets) (found : List (List Marked) × Option (List Marked)) (bit : Bit) :
    List (List Marked) × Option (List Marked) :=
  let closed := match found.2 with
    | some argument => argument.reverse :: found.1
    | none => found.1
  match bit with
  | .char c quoted parts =>
    if parts && signs.contains c then
      if [' ', '\t', '\n'].contains c then (closed, none)
      else ((found.2.getD []).reverse :: found.1, none)
    else (found.1, some ((c, quoted) :: found.2.getD []))
  | .mark => (found.1, some (found.2.getD []))
  | .ending => (closed, none)

/-- The paths that the names of a pattern stand for, each after what led there. -/
def pathsFrom (tree : Tree) (directory : List String) :
    List (List Marked) → Octets → List Octets
  | [], before => [before]
  | name :: rest, before =>
    let slash := if rest.isEmpty then [] else ['/']
    let written := name.map Prod.fst
    if name.any fun (c, quoted) => !quoted && NamePattern.isWild [c] then
      let above := if before.isEmpty then ['.'] else before
      let present := match spotFrom tree directory true above with
        | .ok ⟨place, some .directory⟩ => (tree.children place).map octets
        | _ => []
      let asksHidden := written.head? = some '.'
      let listed := if asksHidden then ['.'] :: ['.', '.'] :: present else present
      let found := listed.filter fun text =>
        (asksHidden || text.head? ≠ some '.') && NamePattern.accepts (patternOf name) text
      found.flatMap fun text => pathsFrom tree directory rest (before ++ text ++ slash)
    else
      let path := before ++ written
      let leads := (spotFrom tree directory false path).toOption.any (·.node.isSome)
      if leads || path.isEmpty then pathsFrom tree directory rest (path ++ slash) else []

/-- The arguments that a field stands for: itself if it is no pattern or stands for nothing. -/
def pathsOf (field : List Marked) : Shell (List Octets) := do
  let session ← get
  let written := field.map Prod.fst
  if session.options.contains "noglob" || !(field.any fun (c, quoted) =>
      !quoted && NamePattern.isWild [c]) then return [written]
  else
    let names := Text.splitOn ('/', false) (field.map fun (c, quoted) => (c, quoted && c ≠ '/'))
    let found := pathsFrom session.machine.tree session.directory names []
    return if found.isEmpty then [written]
      else found.mergeSort fun one other => !other.lex one fun c d => decide (c < d)

/-- The arguments of words. -/
def expandAll (run : OutputOf) (words : List Word) : Shell (List Octets) := do
  let rows ← words.mapM fun word => do
    let bits ← expandWord run deepestWord false false (← withHome word)
    let (fields, _) := (bits ++ [Bit.ending]).foldl (partBits (← partingChars)) ([], none)
    let paths ← fields.reverse.mapM pathsOf
    return paths.flatten
  return rows.flatten

end LintBench.Host.Shell
