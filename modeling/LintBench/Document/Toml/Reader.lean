import LintBench.Document.Toml.Scalar
import LintBench.Text.Utf8

/-!
# Reading TOML

A document is a row of statements: members of the table that was opened last,
and openings of tables. What has been said of a key limits what may still be
said of it: a list or a table that was written out in one piece is closed, and a
table is opened once.
-/

namespace LintBench.Toml

/-- The keys on the way to a value. -/
abbrev Key := List String

/-! ## Keys -/

/-- A character of a key without quotes. -/
def isBare (c : Char) : Bool :=
  isDigit c || ('a' ≤ c && c ≤ 'z') || ('A' ≤ c && c ≤ 'Z') || c = '-' || c = '_'

/-- Read one key at the front of a text. -/
def readKeyPart (text : List Char) : Option (String × List Char) :=
  let bare := text.takeWhile isBare
  if bare.isEmpty then (readLineText text).map fun (name, rest) => (String.ofList name, rest)
  else some (String.ofList bare, text.dropWhile isBare)

/-- Read keys with points between them. Every key takes one from `fuel`. -/
def readKeyParts : Nat → List Char → Option (Key × List Char)
  | 0, _ => none
  | fuel + 1, text => do
    let (part, rest) ← readKeyPart text
    match skipSpace rest with
    | '.' :: more =>
      let (parts, after) ← readKeyParts fuel (skipSpace more)
      return (part :: parts, after)
    | after => return ([part], after)

/-- Read the keys at the front of a text, and the blanks after them. -/
def readKey (text : List Char) : Except Fault (Key × List Char) :=
  match readKeyParts text.length text with
  | some read => .ok read
  | none => .error .malformed

/-! ## Comments -/

/-- Skip a comment up to the end of its line. -/
def skipComment : List Char → Except Fault (List Char)
  | '#' :: rest =>
    if (rest.takeWhile (· ≠ '\n')).any isControl then .error .malformed
    else .ok (rest.dropWhile (· ≠ '\n'))
  | text => .ok text

/-- Skip blanks, ends of lines, and comments. Every comment takes one from `fuel`. -/
def skipFiller : Nat → List Char → Except Fault (List Char)
  | 0, _ => .error .malformed
  | fuel + 1, text =>
    match skipSpaceAndEnds text with
    | '#' :: rest => do skipFiller fuel (← skipComment ('#' :: rest))
    | rest => .ok rest

/-- Skip what may stand between the values of a list. -/
def skipBetween (text : List Char) : Except Fault (List Char) := skipFiller (text.length + 1) text

/-! ## Values -/

/-- Read a value that holds no other values. -/
def readScalar (text : List Char) : Except Fault (Value × List Char) :=
  let orElse (next : Unit → Except Fault (Value × List Char)) :
      Option (Kind × List Char) → Except Fault (Value × List Char)
    | some (kind, rest) => .ok (.scalar kind, rest)
    | none => next ()
  match text.head? with
  | some '"' | some '\'' =>
    match readText text with
    | some (value, rest) => .ok (.text (String.ofList value), rest)
    | none => .error .malformed
  | _ =>
    match takeWord "true" text, takeWord "false" text with
    | some rest, _ => .ok (.bool true, rest)
    | _, some rest => .ok (.bool false, rest)
    | none, none => do
      orElse (fun _ => do
        orElse (fun _ => .error .malformed) (← readNumber text)) (← readMoment text)

/-- Whether one row of keys starts another. -/
def Key.leadsTo (key longer : Key) : Bool := key.isPrefixOf longer

/-- Add a member to a table that is written out in one piece. -/
def insertInline (key : Key) (value : Value) (table : Table) : Option Table :=
  updateAt false (insertNew (key.getLast?.getD "") value) key.dropLast table

/-- How much lists and tables inside each other may weigh. -/
def deepest : Nat := 986

/-- What a list weighs. -/
def listWeight : Nat := 2

/-- What a table that is written out in one piece weighs. -/
def tableWeight : Nat := 3

mutual

/-- Read a value. Lists and tables inside each other weigh at most `depth`, and every call takes one
from `fuel`. -/
def readValue : Nat → Nat → List Char → Except Fault (Value × List Char)
  | 0, _, _ => .error .malformed
  | fuel + 1, depth, '[' :: rest => do
    if depth < listWeight then throw .tooDeep
    match ← skipBetween rest with
    | ']' :: after => return (.list [], after)
    | start =>
      let (items, after) ← readItems fuel (depth - listWeight) start
      return (.list items, after)
  | fuel + 1, depth, '\x7b' :: rest => do
    if depth < tableWeight then throw .tooDeep
    match skipSpace rest with
    | '\x7d' :: after => return (.table [], after)
    | start =>
      let (members, after) ← readMembers fuel (depth - tableWeight) start [] []
      return (.table members, after)
  | _ + 1, _, text => readScalar text

/-- Read the values of a list up to its closing bracket; a comma may stand before that. -/
def readItems : Nat → Nat → List Char → Except Fault (List Value × List Char)
  | 0, _, _ => .error .malformed
  | fuel + 1, depth, text => do
    let (value, rest) ← readValue fuel depth text
    match ← skipBetween rest with
    | ']' :: after => return ([value], after)
    | ',' :: more =>
      match ← skipBetween more with
      | ']' :: after => return ([value], after)
      | start =>
        let (values, after) ← readItems fuel depth start
        return (value :: values, after)
    | _ => .error .malformed

/-- Read the members of a table up to its closing brace, after those read already. The keys of
`closed` lead to values that nothing is added to. -/
def readMembers : Nat → Nat → List Char → List Key → Table → Except Fault (Table × List Char)
  | 0, _, _, _, _ => .error .malformed
  | fuel + 1, depth, text, closed, table => do
    let (key, afterKey) ← readKey text
    match afterKey with
    | '=' :: start =>
      let (value, rest) ← readValue fuel depth (skipSpace start)
      if closed.any (·.leadsTo key) then .error .malformed
      else
        match insertInline key value table with
        | none => .error .malformed
        | some table =>
          match skipSpace rest with
          | '\x7d' :: after => return (table, after)
          | ',' :: more =>
            readMembers fuel depth (skipSpace more)
              (if value.isContainer then key :: closed else closed) table
          | _ => .error .malformed
    | _ => .error .malformed

end

/-! ## Statements -/

/-- What has been read of a document. -/
structure Reading where
  /-- The document's table. -/
  table : Table := []
  /-- The keys of the table that was opened last. -/
  header : Key := []
  /-- Keys of values that nothing is added to. -/
  closed : List Key := []
  /-- Keys of tables that are not opened again. -/
  opened : List Key := []
  /-- Keys of tables that count as opened when the next table is opened. -/
  pending : List Key := []
deriving Repr, Inhabited

namespace Reading

/-- Whether nothing is added below a key. -/
def isClosed (reading : Reading) (key : Key) : Bool :=
  key ≠ [] && reading.closed.any (·.leadsTo key)

/-- A reading with another table, if there is one. -/
def withTable (reading : Reading) : Option Table → Except Fault Reading
  | some table => .ok { reading with table }
  | none => .error .malformed

/-- Add a member to the table that was opened last. -/
def addMember (reading : Reading) (key : Key) (value : Value) : Except Fault Reading :=
  let whole := reading.header ++ key
  let within := (List.range (key.length - 1)).map fun count =>
    reading.header ++ key.take (count + 1)
  let change := insertNew (key.getLast?.getD "") value
  if within.any reading.opened.contains || reading.isClosed whole.dropLast then .error .malformed
  else
    { reading with
      pending := within ++ reading.pending
      closed := if value.isContainer then whole :: reading.closed else reading.closed }.withTable
        (updateAt true change whole.dropLast reading.table)

/-- Let the tables that were made on the way to members count as opened. -/
def settle (reading : Reading) : Reading :=
  { reading with opened := reading.pending ++ reading.opened, pending := [] }

/-- Open a table. -/
def openTable (reading : Reading) (key : Key) : Except Fault Reading :=
  if reading.opened.contains key || reading.isClosed key then .error .malformed
  else
    { reading with opened := key :: reading.opened, header := key }.withTable
      (updateAt true some key reading.table)

/-- Open the next table of a list. What was said of the tables before it is forgotten. -/
def openItem (reading : Reading) (key : Key) : Except Fault Reading :=
  if reading.isClosed key then .error .malformed
  else
    { reading with
      opened := key :: reading.opened.filter fun other => !key.leadsTo other
      closed := reading.closed.filter fun other => !key.leadsTo other
      header := key }.withTable
        (updateAt true (appendTable (key.getLast?.getD "")) key.dropLast reading.table)

/-- Read the statement at the front of a text; its first character is no blank. -/
def statement (reading : Reading) (text : List Char) : Except Fault (Reading × List Char) :=
  match text with
  | '[' :: '[' :: rest => do
    let (key, after) ← readKey (skipSpace rest)
    let next ← reading.settle.openItem key
    match after with
    | ']' :: ']' :: after => return (next, after)
    | _ => .error .malformed
  | '[' :: rest => do
    let (key, after) ← readKey (skipSpace rest)
    let next ← reading.settle.openTable key
    match after with
    | ']' :: after => return (next, after)
    | _ => .error .malformed
  | '#' :: _ => .ok (reading, text)
  | _ => do
    let (key, after) ← readKey text
    match after with
    | '=' :: start =>
      let (value, rest) ← readValue (2 * start.length + 2) deepest (skipSpace start)
      return (← reading.addMember key value, rest)
    | _ => .error .malformed

/-- Read the statements of a text, each on a line of its own. Every line takes one from `fuel`. -/
def statements : Nat → Reading → List Char → Except Fault Reading
  | 0, _, _ => .error .malformed
  | fuel + 1, reading, text =>
    match skipSpace text with
    | [] => .ok reading
    | '\n' :: rest => statements fuel reading rest
    | start => do
      let (reading, rest) ← reading.statement start
      match ← skipComment (skipSpace rest) with
      | [] => return reading
      | '\n' :: more => statements fuel reading more
      | _ => .error .malformed

end Reading

/-- Let every line end in a line feed; a carriage return alone stays. -/
def joinLineEnds : List Char → List Char
  | '\r' :: '\n' :: rest => '\n' :: joinLineEnds rest
  | c :: rest => c :: joinLineEnds rest
  | [] => []

/-- Read a whole document. -/
def read (text : String) : Except Fault Table :=
  let chars := joinLineEnds text.toList
  (Reading.statements (chars.length + 1) {} chars).map Reading.table

end LintBench.Toml
