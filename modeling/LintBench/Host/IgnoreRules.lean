import LintBench.Autofix.Snapshot

/-!
# Ignore rules

A rule of an ignore file says that paths are ignored, or after an exclamation
mark that they are not. It is a row of name patterns parted by slashes; two
stars stand for any directories. A rule that matches a path itself outweighs one
that matches a directory above it, and of two rules of the same weight the later
one counts.
-/

namespace LintBench.Host

/-- A part of an ignore rule. -/
inductive IgnorePart where
  /-- A part of the pattern of one name. -/
  | like (part : NamePart)
  /-- A slash between two names. -/
  | slash
  /-- Any directories, or none, and the slash after them. -/
  | directoriesBefore
  /-- A slash and any directories, or neither. -/
  | directoriesWithin
deriving DecidableEq, Repr

/-- What may follow the parts of a rule. -/
inductive IgnoreEnding where
  /-- Nothing, or a slash and anything. -/
  | orBelow
  /-- A slash and anything. The weight is that of a directory's rule if the rule ends in a slash. -/
  | below (ofDirectory : Bool)
deriving DecidableEq, Repr

/-- The paths that a rule is about. -/
inductive IgnorePaths where
  /-- Paths that start with some parts and go on with an ending. -/
  | startingWith (parts : List IgnorePart) (ending : IgnoreEnding)
  /-- Paths of more than one name. -/
  | nested
  /-- All paths in which a character is no line's end. -/
  | all
deriving DecidableEq, Repr

/-- A rule of an ignore file. -/
structure IgnoreRule where
  /-- Whether the rule's paths are ignored. -/
  ignores : Bool
  /-- The paths that it is about. -/
  paths : IgnorePaths
deriving DecidableEq, Repr

namespace IgnoreRule

/-! ## Reading -/

/-- The text of two stars. -/
def doubleStar : List Char := ['*', '*']

/-- Why the pattern of a name is not read. -/
inductive NameFlaw where
  /-- A class is not closed. A rule with such a class is about no path. -/
  | unclosed
  /-- A backslash at the end quotes nothing. -/
  | danglingEscape
deriving DecidableEq, Repr

/-- Read the pattern of one name. A backslash quotes the character after it. -/
def readName : List Char → Except NameFlaw NamePattern
  | [] => .ok []
  | '\\' :: [] => .error .danglingEscape
  | '\\' :: c :: rest => (readName rest).map (.char c :: ·)
  | '*' :: rest => (readName rest).map (.anyText :: ·)
  | '?' :: rest => (readName rest).map (.anyChar :: ·)
  | '[' :: rest =>
    match _taken : NamePattern.takeClass ['!', '^'] rest with
    | some (found, after) =>
      (readName after).map
        (NamePattern.partOf found.excluded (NamePattern.readItems found.body) :: ·)
    | none => .error .unclosed
  | c :: rest => (readName rest).map (.char c :: ·)
termination_by text => text.length
decreasing_by
  · simp only [List.length_cons]
    omega
  · simp
  · simp
  · have shorter := NamePattern.takeClass_shorter _taken
    simp
    omega
  · simp

/-- Whether no class among parts has a range whose ends are the wrong way round. -/
def rangesInOrder (parts : List IgnorePart) : Bool :=
  parts.all fun
    | .like (.oneOf _ ranges) => ranges.all fun (low, high) => low ≤ high
    | _ => true

/-- Let a single name stand at any depth, and take the slash off that binds a rule to the top. -/
def anchored : List (List Char) → List (List Char)
  | [] :: rest => rest
  | [name] => if name = doubleStar then [name] else [doubleStar, name]
  | [name, []] => if name = doubleStar then [name, []] else [doubleStar, name, []]
  | names => names

/-- Let a slash at the end stand for everything below. -/
def closed (names : List (List Char)) : List (List Char) :=
  if names.getLast? = some [] then names.dropLast ++ [doubleStar] else names

/-- Leave out two stars that follow two stars. -/
def collapsed : List (List Char) → List (List Char)
  | first :: second :: rest =>
    if first = doubleStar ∧ second = doubleStar then collapsed (second :: rest)
    else first :: collapsed (second :: rest)
  | names => names

/-- The parts of the names that follow the first one, and the ending. -/
def partsAfter (ofDirectory : Bool) :
    List (List Char) → Except NameFlaw (List IgnorePart × IgnoreEnding)
  | [] => .ok ([], .orBelow)
  | name :: rest =>
    if name = doubleStar then
      if rest.isEmpty then .ok ([], .below ofDirectory)
      else (partsAfter ofDirectory rest).map fun (parts, ending) =>
        (.directoriesWithin :: parts, ending)
    else do
      let pattern ← readName name
      let (parts, ending) ← partsAfter ofDirectory rest
      return (.slash :: pattern.map .like ++ parts, ending)

/-- The parts of all names, and the ending. -/
def partsOf (ofDirectory : Bool) :
    List (List Char) → Except NameFlaw (List IgnorePart × IgnoreEnding)
  | [] => .ok ([], .orBelow)
  | name :: rest =>
    if name = doubleStar then
      (partsAfter ofDirectory rest).map fun (parts, ending) =>
        (.directoriesBefore :: parts.drop 1, ending)
    else do
      let pattern ← readName name
      let (parts, ending) ← partsAfter ofDirectory rest
      return (pattern.map .like ++ parts, ending)

/-- The paths that names are about; none if a class is not closed. -/
def pathsOf (ofDirectory : Bool) (names : List (List Char)) :
    Except IgnoreFault (Option IgnorePaths) :=
  if names.isEmpty then .error .malformed
  else if names = [doubleStar] then .ok (some (if ofDirectory then .nested else .all))
  else if names = [doubleStar, ['*']] then .ok (some .all)
  else match partsOf ofDirectory names with
    | .error .danglingEscape => .error .malformed
    | .error .unclosed => .ok none
    | .ok (parts, ending) =>
      if rangesInOrder parts then .ok (some (.startingWith parts ending))
      else .error .reversedRange

/-- The text of a rule without the blanks at its end; a space there may be quoted. -/
def stripped (line : List Char) : List Char :=
  if [' ', '\\'].isPrefixOf line.reverse then line else Text.dropTrailingBlanks line

/-- Read a line of an ignore file; a blank line and a comment have no rule. -/
def read (line : List Char) : Except IgnoreFault (Option IgnoreRule) :=
  let text := stripped line
  if text = [] ∨ text.head? = some '#' ∨ text = ['/'] then .ok none
  else
    let negated := text.head? = some '!'
    let names := Text.splitOn '/' (if negated then text.drop 1 else text)
    let ofDirectory := names.getLast? = some []
    (pathsOf ofDirectory (collapsed (closed (anchored names)))).map fun paths =>
      paths.map ({ ignores := !negated, paths := · })

/-! ## Matching -/

/-- How a rule matches a path. -/
inductive Weight where
  /-- By a directory above the path. -/
  | directory
  /-- By the path itself. -/
  | itself
deriving DecidableEq, Repr

/-- What a rule's ending makes of the rest of a path. A line's end that is the last character may
follow the path. -/
def IgnoreEnding.weigh (ending : IgnoreEnding) (rest : List Char) : Option Weight :=
  match ending, rest with
  | .orBelow, [] | .orBelow, ['\n'] => some .itself
  | .orBelow, '/' :: _ => some .directory
  | .below ofDirectory, '/' :: _ => some (if ofDirectory then .directory else .itself)
  | _, _ => none

/-- What an ending makes of each end of a path. -/
def weighEnds (ending : IgnoreEnding) : List Char → List (Option Weight)
  | [] => [IgnoreEnding.weigh ending []]
  | c :: rest => IgnoreEnding.weigh ending (c :: rest) :: weighEnds ending rest

/-- The weights of matches with directories in front: characters that are no line's end, and
a slash. The longest one is tried first. -/
def withDirectories (text : List Char) (row : List (Option Weight)) : List (Option Weight) :=
  Text.alongEnds (fun _ => none) (fun c _ next later =>
    if c = '\n' then none else later <|> if c = '/' then next else none) text row

/-- The weights of matches with characters in front that are no line's end, at least one of them.
The longest row of them is tried first. -/
def withCharacters (text : List Char) (row : List (Option Weight)) : List (Option Weight) :=
  Text.alongEnds (fun _ => none) (fun c _ next later =>
    if c = '\n' then none else later <|> next) text row

/-- Match the parts of a rule with each end of a path, and weigh the matches. What can be of any
length is first tried as long as possible. -/
def weigh (ending : IgnoreEnding) : List IgnorePart → List Char → List (Option Weight)
  | [], text => weighEnds ending text
  | .slash :: parts, text =>
    Text.alongEnds (fun _ => none) (fun c _ next _ => if c = '/' then next else none) text
      (weigh ending parts text)
  | .directoriesBefore :: parts, text =>
    let row := weigh ending parts text
    Text.alongEnds Prod.snd (fun c here next _ =>
        (if c = '\n' then none else next.1) <|> here.2)
      text ((withDirectories text row).zip row)
  | .directoriesWithin :: parts, text =>
    let row := weigh ending parts text
    Text.alongEnds Prod.snd (fun c here next _ =>
        (if c = '/' then next.1 else none) <|> here.2)
      text ((withCharacters text row).zip row)
  | .like .anyText :: parts, text =>
    Text.alongEnds id (fun c here _ later => (if c = '/' then none else later) <|> here) text
      (weigh ending parts text)
  | .like part :: parts, text =>
    Text.alongEnds (fun _ => none) (fun c _ next _ =>
      if NamePattern.admits part c && !(part == .anyChar && c == '/') then next else none) text
      (weigh ending parts text)

/-- How a rule matches a path, if it does. -/
def weight? (rule : IgnoreRule) (path : String) : Option Weight :=
  match rule.paths with
  | .startingWith parts ending => Text.wholeFact (weigh ending parts path.toList)
  | .nested => if path.contains '/' then some .directory else none
  | .all => if path.any (· ≠ '\n') then some .itself else none

/-- Read the lines of an ignore file. -/
def readAll (lines : List String) : Except IgnoreFault (List IgnoreRule) :=
  (lines.mapM fun line => read line.toList).map fun rules => rules.filterMap id

/-- Whether a path is ignored: the last of the rules with the greatest weight decides. -/
def ignores? (rules : List IgnoreRule) (path : String) : Bool :=
  let later := rules.reverse
  let decided (weight : Weight) : Option IgnoreRule :=
    later.find? fun rule => rule.weight? path = some weight
  match decided .itself with
  | some rule => rule.ignores
  | none => ((decided .directory).map IgnoreRule.ignores).getD false

end IgnoreRule

/-- Read an ignore file: its rules decide which paths are ignored. -/
def readRules : IgnoreReader := fun lines =>
  (IgnoreRule.readAll lines).map IgnoreRule.ignores?

end LintBench.Host
