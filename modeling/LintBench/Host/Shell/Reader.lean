import LintBench.Host.Shell.Syntax

/-!
# Reading scripts

A script is read as far as a line goes on; what the line says is carried out before
more is read. A text that a script supplies stands in the lines after the one that
asks for it.
-/

namespace LintBench.Host.Shell

/-- Why a script is not read: what is told about it, and in which line it was found. -/
structure SyntaxFault where
  /-- What is told. -/
  text : String
  /-- The line. -/
  line : Nat

/-- A text that a script supplies. -/
structure Document where
  /-- Its number. -/
  number : Nat
  /-- The line that ends it. -/
  ending : Octets
  /-- Whether its lines stand without the tabs before them. -/
  dedented : Bool
  /-- Whether nothing is put in place of anything in it. -/
  literal : Bool
  /-- Its characters. -/
  text : Octets := []

/-- How far a script has been read. -/
structure ReadState where
  /-- What is not read yet. -/
  rest : Octets
  /-- The line that has been come to. -/
  line : Nat := 1
  /-- The family of the shell. -/
  dialect : Dialect := .plain
  /-- The texts that are to follow this line. -/
  awaited : List Document := []
  /-- The texts that were read. -/
  documents : List Document := []
  /-- The number of the next text. -/
  nextDocument : Nat := 0

/-- A step of reading a script. -/
abbrev Reader := StateT ReadState (Except SyntaxFault)

/-! ## Characters -/

/-- Give a script up. -/
def refuse {α : Type} (text : String) : Reader α := do throw { text, line := (← get).line }

/-- The words that have a meaning where commands start. -/
def reservedWords : List String :=
  ["if", "then", "else", "elif", "fi", "while", "until", "for", "do", "done", "case", "esac",
    "\x7b", "\x7d", "!"]

/-- What is told about the start of a text that should not stand where it does. -/
def unexpectedText (text : Octets) : String :=
  let told (sign : String) : String := "\"" ++ sign ++ "\" unexpected"
  match text with
  | [] => "end of file unexpected"
  | '\n' :: _ => "newline unexpected"
  | c :: _ =>
    let word := String.ofList (text.takeWhile Char.isAlpha)
    match ["&&", "||", ";;"].find? fun sign => sign.toList.isPrefixOf text with
    | some sign => told sign
    | none =>
      if [';', '&', '|', '<', '>', '(', ')', '\x7d'].contains c then told c.toString
      else if reservedWords.contains word then told word
      else "word unexpected"

/-- Give a script up for what comes next. -/
def refuseNext {α : Type} : Reader α := do refuse (unexpectedText (← get).rest)

/-- Take characters. -/
def take (count : Nat) : Reader Octets := do
  let state ← get
  let taken := state.rest.take count
  set { state with rest := state.rest.drop count, line := state.line + taken.count '\n' }
  return taken

/-- Take the characters up to the first one that fails a test. -/
def takeWhile (test : Char → Bool) : Reader Octets := do
  take ((← get).rest.takeWhile test).length

/-- Take a sign if it comes next. -/
def accept (sign : String) : Reader Bool := do
  let isNext := sign.toList.isPrefixOf (← get).rest
  if isNext then discard (take sign.length)
  return isNext

/-- Take a sign that has to come next. -/
def demand (sign : String) : Reader Unit := do
  if !(← accept sign) then refuseNext

/-- The signs that words end at. -/
def breaks : List Char := [' ', '\t', '\n', ';', '&', '|', '<', '>', '(', ')']

/-- Take blanks, ends of lines that do not count, and a comment. Each takes one from `fuel`. -/
def skipBlanks : Nat → Reader Unit
  | 0 => return
  | fuel + 1 => do
    match (← get).rest with
    | ' ' :: _ | '\t' :: _ => take 1 *> skipBlanks fuel
    | '\\' :: '\n' :: _ => take 2 *> skipBlanks fuel
    | '#' :: _ => discard (takeWhile (· ≠ '\n'))
    | _ => return

/-- Take what may stand between the parts of a command. -/
def skip : Reader Unit := do skipBlanks (← get).rest.length

/-- Read the texts that are to follow a line. -/
def readDocuments : Reader Unit := do
  let state ← get
  set { state with awaited := [] }
  state.awaited.forM fun document => do
    let rec lines : Nat → Reader Octets
      | 0 => return []
      | fuel + 1 => do
        let line ← takeWhile (· ≠ '\n')
        discard (take 1)
        let line := if document.dedented then line.dropWhile (· = '\t') else line
        if line = document.ending || (line.isEmpty && (← get).rest.isEmpty) then return []
        else return line ++ '\n' :: (← lines fuel)
    let text ← lines (← get).rest.length
    modify fun state => { state with documents := { document with text } :: state.documents }

/-- Take the end of a line if it comes next, and the texts after it. -/
def acceptEnd : Reader Bool := do
  let ends ← accept "\n"
  if ends then readDocuments
  return ends

/-- Take blanks and ends of lines. Each line takes one from `fuel`. -/
def skipLines : Nat → Reader Unit
  | 0 => return
  | fuel + 1 => do
    skip
    if ← acceptEnd then skipLines fuel

/-- Take all that may stand between commands. -/
def skipAll : Reader Unit := do skipLines ((← get).rest.length + 1)

/-- The characters of the word that comes next, as they are written. -/
def nextWord : Reader Octets := return (← get).rest.takeWhile fun c => !breaks.contains c

/-- Take a word that has a meaning where commands start, if it comes next. -/
def acceptWord (word : String) : Reader Bool := do
  skip
  if (← nextWord) = word.toList then accept word else return false

/-- Take such a word if it comes next and the shell belongs to the extended family. -/
def acceptExtended (word : String) : Reader Bool := do
  match (← get).dialect with
  | .plain => return false
  | .extended => acceptWord word

/-- Take such a word, which has to come next. -/
def demandWord (word : String) : Reader Unit := do
  if !(← acceptWord word) then
    refuse (unexpectedText (← get).rest ++ " (expecting \"" ++ word ++ "\")")

/-- The words that end a row of commands. -/
def closingWords : List String := ["then", "else", "elif", "fi", "do", "done", "esac", "\x7d"]

/-- Whether a row of commands ends here. -/
def isClosed : Reader Bool := do
  let rest := (← get).rest
  return rest.isEmpty || rest.head? = some ')' || [';', ';'].isPrefixOf rest
    || closingWords.contains (String.ofList (← nextWord))

/-! ## Words -/

/-- Where a word stands. -/
inductive Site where
  /-- Among other words. -/
  | bare
  /-- Between double quotes. -/
  | quotes
  /-- Between braces. -/
  | braces (quoted : Bool)
  /-- Between braces, where a slash ends it too. -/
  | sought (quoted : Bool)
  /-- Between double brackets, so many brackets deep in them. -/
  | brackets (depth : Nat)
  /-- In a text that a script supplies. -/
  | document

/-- Whether the characters of a word do not have their meanings. -/
def Site.isQuoted : Site → Bool
  | .bare => false
  | .braces quoted | .sought quoted => quoted
  | .quotes | .brackets _ | .document => true

/-- Whether a word ends before a text. -/
def Site.ends : Site → Octets → Bool
  | .bare, text => text.head?.all breaks.contains
  | .quotes, text => text.head? = some '"'
  | .braces _, text => text.head? = some '\x7d'
  | .sought _, text => text.head? = some '\x7d' || text.head? = some '/'
  | .brackets depth, text => depth = 0 && [')', ')'].isPrefixOf text
  | .document, text => text.isEmpty

/-- The place of a word after a character of it. -/
def Site.after : Site → Char → Site
  | .brackets depth, '(' => .brackets (depth + 1)
  | .brackets depth, ')' => .brackets (depth - 1)
  | site, _ => site

/-- The sign that opens and closes an older kind of script in a word. -/
def backQuote : Char := Char.ofNat 96

/-- Whether a backslash takes its meaning from a character. -/
def Site.escapes (site : Site) (c : Char) : Bool :=
  !site.isQuoted || ['$', '\\', '\n', backQuote].contains c
    || (c = '"' && !(site matches .document))

/-- A word with characters before it. -/
def addText (quoted : Bool) (text : Octets) : Word → Word
  | .text other rest :: word =>
    if quoted = other then .text quoted (text ++ rest) :: word
    else .text quoted text :: .text other rest :: word
  | word => .text quoted text :: word

/-- Take the script that stands between backquotes. Each character takes one from `fuel`. -/
def takeBackquoted (site : Site) : Nat → Reader Octets
  | 0 => refuse "EOF in backquote substitution"
  | fuel + 1 => do
    match (← get).rest with
    | [] => refuse "EOF in backquote substitution"
    | '\\' :: c :: _ =>
      discard (take 2)
      let drops := c = backQuote || c = '\\' || c = '$' || (c = '"' && site.isQuoted)
      return (if drops then [c] else ['\\', c]) ++ (← takeBackquoted site fuel)
    | c :: _ =>
      discard (take 1)
      if c = backQuote then return [] else return c :: (← takeBackquoted site fuel)

/-- Take the name of a variable or of something that the shell keeps. -/
def takeName? : Reader (Option String) := do
  match (← get).rest with
  | c :: _ =>
    if isNameStart c then return some (String.ofList (← takeWhile isNameChar))
    else if c.isDigit || ['@', '*', '#', '?', '-', '$', '!'].contains c then
      return some (String.ofList (← take 1))
    else return none
  | [] => return none

/-- The text of a word if no part of it is quoted or stands for anything else. -/
def bareText? : Word → Option Octets
  | [.text false text] => some text
  | _ => none

/-- The setting that a word is: a name, and the word for its value. -/
def setting? : Word → Option (String × Word)
  | .text false text :: rest =>
    let name := text.takeWhile isNameChar
    match text.drop name.length with
    | '=' :: value =>
      if name.head?.any isNameStart then
        some (String.ofList name, if value.isEmpty then rest else .text false value :: rest)
      else none
    | _ => none
  | _ => none

/-! ## Commands -/

mutual

/-- Read a word. Each call takes one from `fuel`, here and below. -/
def readWord : Nat → Site → Reader Word
  | 0, _ => refuse "word too long"
  | fuel + 1, site => do
    let rest := (← get).rest
    if site.ends rest then return []
    else match rest with
      | [] => refuse (if site.isQuoted then "Unterminated quoted string" else "Missing '\x7d'")
      | '\\' :: '\n' :: _ => take 2 *> readWord fuel site
      | '\\' :: c :: _ =>
        if site.escapes c then
          discard (take 2)
          return addText true [c] (← readWord fuel site)
        else
          discard (take 1)
          return addText site.isQuoted ['\\'] (← readWord fuel site)
      | '$' :: _ =>
        let fragment ← readDollar fuel site.isQuoted
        return fragment :: (← readWord fuel site)
      | '\'' :: _ =>
        discard (take 1)
        if site.isQuoted then return addText true ['\''] (← readWord fuel site)
        else
          let text ← takeWhile (· ≠ '\'')
          if !(← accept "'") then refuse "Unterminated quoted string"
          return addText true text (← readWord fuel site)
      | c :: _ =>
        discard (take 1)
        if c = backQuote then
          let text ← takeBackquoted site (← get).rest.length
          let script ← readApart fuel text
          return .output site.isQuoted script :: (← readWord fuel site)
        else if c = '"' && !(site matches .document | .brackets _) then
          let inner ← readWord fuel .quotes
          demand "\""
          let word ← readWord fuel site
          return if inner.isEmpty then addText true [] word else inner ++ word
        else return addText site.isQuoted [c] (← readWord fuel (site.after c))

/-- Read what a dollar sign starts. -/
def readDollar : Nat → Bool → Reader Fragment
  | 0, _ => refuse "word too long"
  | fuel + 1, quoted => do
    demand "$"
    if ← accept "((" then
      let expression ← readWord fuel (.brackets 0)
      demand "))"
      return .number quoted expression
    else if ← accept "(" then
      let script ← readRow fuel
      skipAll
      demand ")"
      return .output quoted script
    else if ← accept "\x7b" then readBraces fuel quoted
    else match ← takeName? with
      | some name => return .variable quoted name .value
      | none => return .text quoted ['$']

/-- Read what stands between braces after a dollar sign. -/
def readBraces : Nat → Bool → Reader Fragment
  | 0, _ => refuse "Bad substitution"
  | fuel + 1, quoted => do
    let asksLength : Bool := match (← get).rest with
      | '#' :: c :: _ => c ≠ '\x7d'
      | _ => false
    if asksLength then discard (take 1)
    let some name ← takeName? | refuse "Bad substitution"
    let use ← if asksLength then pure .length else readUse fuel quoted
    demand "\x7d"
    return .variable quoted name use

/-- Read what is done with the value of a name. A pattern is not quoted by the quotes around it. -/
def readUse : Nat → Bool → Reader VariableUse
  | 0, _ => refuse "Bad substitution"
  | fuel + 1, quoted => do
    let ifEmpty ← accept ":"
    let word : Reader Word := readWord fuel (.braces quoted)
    let pattern : Reader Word := readWord fuel (.braces false)
    if ← accept "-" then return .orElse ifEmpty (← word)
    else if ← accept "=" then return .orSet ifEmpty (← word)
    else if ← accept "?" then return .orFail ifEmpty (← word)
    else if ← accept "+" then return .instead ifEmpty (← word)
    else if ← accept "%%" then return .without true true (← pattern)
    else if ← accept "%" then return .without true false (← pattern)
    else if ← accept "##" then return .without false true (← pattern)
    else if ← accept "#" then return .without false false (← pattern)
    else if ← accept "^^" then return .capital
    else if ← accept "/" then
      let everywhere ← accept "/"
      let sought ← readWord fuel (.sought false)
      if ← accept "/" then return .replaced everywhere sought (← word)
      else return .replaced everywhere sought []
    else return .value

/-- Read a script that stands apart. -/
def readApart : Nat → Octets → Reader Command
  | 0, _ => refuse "script too long"
  | fuel + 1, text => do
    let rest := (← get).rest
    modify fun state => { state with rest := text }
    let script ← readRow fuel
    if !(← get).rest.isEmpty then refuseNext
    modify fun state => { state with rest }
    return script

/-- Read a row of commands. -/
def readRow : Nat → Reader Command
  | 0 => refuse "script too long"
  | fuel + 1 => do
    skipAll
    if ← isClosed then return .nothing
    else
      let first ← readLine fuel
      return .sequence first (← readRow fuel)

/-- Read the commands of a line. -/
def readLine : Nat → Reader Command
  | 0 => refuse "script too long"
  | fuel + 1 => do
    let first ← readChain fuel
    skip
    let later (first : Command) : Reader Command := do
      skip
      if (← isClosed) || (← acceptEnd) then return first
      else return .sequence first (← readLine fuel)
    if ← isClosed then return first
    else if ← accept "&" then later (.beside first)
    else if ← accept ";" then later first
    else if ← acceptEnd then return first
    else refuseNext

/-- Read commands that go by how others end. -/
def readChain : Nat → Reader Command
  | 0 => refuse "script too long"
  | fuel + 1 => do
    let first ← readPipe fuel
    readRest fuel first

/-- Read such commands after a first one. -/
def readRest : Nat → Command → Reader Command
  | 0, _ => refuse "script too long"
  | fuel + 1, first => do
    skip
    if ← accept "&&" then
      skipAll
      let second ← readPipe fuel
      readRest fuel (.andThen first second)
    else if ← accept "||" then
      skipAll
      let second ← readPipe fuel
      readRest fuel (.orElse first second)
    else return first

/-- Read commands that read from each other. -/
def readPipe : Nat → Reader Command
  | 0 => refuse "script too long"
  | fuel + 1 => do
    if ← acceptWord "!" then return .negated (← readPipe fuel)
    else
      let first ← readCommand fuel
      match ← readStages fuel with
      | [] => return first
      | others => return .pipe (first :: others)

/-- Read the commands after a bar. -/
def readStages : Nat → Reader (List Command)
  | 0 => refuse "script too long"
  | fuel + 1 => do
    skip
    let rest := (← get).rest
    if rest.head? ≠ some '|' || ['|', '|'].isPrefixOf rest then return []
    else
      demand "|"
      skipAll
      let command ← readCommand fuel
      return command :: (← readStages fuel)

/-- Read a command. -/
def readCommand : Nat → Reader Command
  | 0 => refuse "script too long"
  | fuel + 1 => do
    skip
    let changed (command : Command) : Reader Command := do
      match ← readChanges fuel with
      | [] => return command
      | changes => return .redirected command changes
    if ← acceptWord "if" then changed (← readChoice fuel)
    else if ← acceptWord "while" then changed (← readLoop fuel false)
    else if ← acceptWord "until" then changed (← readLoop fuel true)
    else if ← acceptWord "for" then changed (← readEach fuel)
    else if ← acceptWord "case" then
      skip
      let subject ← readWord fuel .bare
      skipAll
      demandWord "in"
      changed (.select subject (← readBranches fuel))
    else if ← acceptWord "\x7b" then
      let body ← readRow fuel
      demandWord "\x7d"
      changed body
    else if ← accept "(" then
      let body ← readRow fuel
      demand ")"
      changed (.nested body)
    else if ← acceptExtended "[[" then changed (← readTest fuel)
    else readPlain fuel

/-- Read a choice after the word that starts it. -/
def readChoice : Nat → Reader Command
  | 0 => refuse "script too long"
  | fuel + 1 => do
    let condition ← readRow fuel
    demandWord "then"
    let yes ← readRow fuel
    if ← acceptWord "elif" then return .choose condition yes (← readChoice fuel)
    else
      let no ← if ← acceptWord "else" then readRow fuel else pure .nothing
      demandWord "fi"
      return .choose condition yes no

/-- Read a loop after the word that starts it. -/
def readLoop : Nat → Bool → Reader Command
  | 0, _ => refuse "script too long"
  | fuel + 1, failing => do
    let condition ← readRow fuel
    return .repeated failing condition (← readBody fuel)

/-- Read what a loop repeats. -/
def readBody : Nat → Reader Command
  | 0 => refuse "script too long"
  | fuel + 1 => do
    skipAll
    demandWord "do"
    let body ← readRow fuel
    demandWord "done"
    return body

/-- Read a loop over words after the word that starts it. -/
def readEach : Nat → Reader Command
  | 0 => refuse "script too long"
  | fuel + 1 => do
    skip
    let name := String.ofList (← takeWhile isNameChar)
    let words ← if ← acceptWord "in" then readWords fuel
      else pure [[.variable true "@" .value]]
    skip
    discard (accept ";")
    return .each name words (← readBody fuel)

/-- Read words up to a sign. -/
def readWords : Nat → Reader (List Word)
  | 0 => refuse "script too long"
  | fuel + 1 => do
    skip
    if Site.bare.ends (← get).rest then return []
    else
      let word ← readWord fuel .bare
      return word :: (← readWords fuel)

/-- Read branches up to the word that ends them. -/
def readBranches : Nat → Reader (List (List Word × Command))
  | 0 => refuse "script too long"
  | fuel + 1 => do
    skipAll
    if ← acceptWord "esac" then return []
    else
      discard (accept "(")
      let patterns ← readPatterns fuel
      let body ← readRow fuel
      discard (accept ";;")
      return (patterns, body) :: (← readBranches fuel)

/-- Read the patterns of a branch. -/
def readPatterns : Nat → Reader (List Word)
  | 0 => refuse "script too long"
  | fuel + 1 => do
    skip
    let word ← readWord fuel .bare
    skip
    if ← accept "|" then return word :: (← readPatterns fuel)
    else
      demand ")"
      return [word]

/-- Read what compares a word with a pattern, after the brackets that open it. -/
def readTest : Nat → Reader Command
  | 0 => refuse "script too long"
  | fuel + 1 => do
    match ← readWords fuel with
    | [subject, sign, pattern, close] =>
      let differs := bareText? sign = some ['!', '=']
      if !differs && bareText? sign ≠ some ['=', '='] && bareText? sign ≠ some ['='] then refuseNext
      if bareText? close ≠ some [']', ']'] then refuseNext
      return .holds subject differs pattern
    | _ => refuseNext

/-- Read a change to where a descriptor leads, if one comes next. -/
def readChange? : Nat → Reader (Option Redirection)
  | 0 => refuse "script too long"
  | fuel + 1 => do
    skip
    let rest := (← get).rest
    let digits := rest.takeWhile Char.isDigit
    let sign := (rest.drop digits.length).head?
    if sign ≠ some '<' && sign ≠ some '>' then return none
    else
      discard (take digits.length)
      let descriptor (usual : Nat) : Nat := (naturalOf? digits).getD usual
      let word : Reader Word := do
        skip
        if Site.bare.ends (← get).rest then refuseNext
        readWord fuel .bare
      if ← accept "<<" then
        let dedented ← accept "-"
        let ending ← word
        let number := (← get).nextDocument
        modify fun state => { state with
          nextDocument := number + 1
          awaited := state.awaited ++ [{
            number, ending := plainText ending, dedented
            literal := (bareText? ending).isNone }] }
        return some (.supply (descriptor 0) number)
      else if ← accept "<&" then return some (.copy (descriptor 0) (← word))
      else if ← accept "<" then return some (.read (descriptor 0) (← word))
      else if ← accept ">>" then return some (.write (descriptor 1) true (← word))
      else if ← accept ">&" then return some (.copy (descriptor 1) (← word))
      else
        demand ">"
        return some (.write (descriptor 1) false (← word))

/-- Read the changes that follow a command. -/
def readChanges : Nat → Reader (List Redirection)
  | 0 => refuse "script too long"
  | fuel + 1 => do
    match ← readChange? fuel with
    | some change => return change :: (← readChanges fuel)
    | none => return []

/-- Read a command of words, or a name for a command. -/
def readPlain : Nat → Reader Command
  | 0 => refuse "script too long"
  | fuel + 1 => do
    let state ← get
    let name := state.rest.takeWhile isNameChar
    let after := (state.rest.drop name.length).dropWhile (· = ' ')
    if name.head?.any isNameStart && ['(', ')'].isPrefixOf after then
      discard (take (state.rest.length - after.length + 2))
      skipAll
      return .define (String.ofList name) (← readCommand fuel)
    else
      let (settings, words, changes) ← readParts fuel true
      if settings.isEmpty && words.isEmpty && changes.isEmpty then refuseNext
      return .simple state.line settings words changes

/-- Read the settings, words and changes of a command; `leading` says that no word has come. -/
def readParts : Nat → Bool → Reader (List (String × Word) × List Word × List Redirection)
  | 0, _ => refuse "script too long"
  | fuel + 1, leading => do
    match ← readChange? fuel with
    | some change =>
      let (settings, words, changes) ← readParts fuel leading
      return (settings, words, change :: changes)
    | none =>
      if Site.bare.ends (← get).rest then return ([], [], [])
      else
        let word ← readWord fuel .bare
        match if leading then setting? word else none with
        | some setting =>
          let (settings, words, changes) ← readParts fuel true
          return (setting :: settings, words, changes)
        | none =>
          let (_, words, changes) ← readParts fuel false
          return ([], word :: words, changes)

end

/-! ## Scripts -/

/-- How many calls reading a text takes at most. -/
def longestReading (text : Octets) : Nat := 20 * text.length + 20

/-- Read the next line of a script, or come to its end. -/
def readNext : Reader (Option Command) := do
  skipAll
  let rest := (← get).rest
  if rest.isEmpty then return none
  else return some (← readLine (longestReading rest))

/-- The word that a supplied text is. -/
def Document.word (document : Document) (dialect : Dialect) : Except SyntaxFault Word :=
  if document.literal then .ok [.text true document.text]
  else ((readWord (longestReading document.text) .document).run
    { rest := document.text, dialect }).map Prod.fst

end LintBench.Host.Shell
