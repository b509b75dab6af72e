import LintBench.Report.Styled
import LintBench.Text.Blank

/-!
# Text on a terminal

How a terminal shows styled text. Characters that would move the cursor are left out,
and a tab goes on to the next of the columns that are eight apart. Colour codes stand
around each piece of a line, and a line ends without a style. A text with tags is
shown without them and without colours; a tag after a backslash is shown as it is,
and emoji stand in place of those of their names that are listed here.
-/

namespace LintBench.Host

/-- The code that selects a colour for letters. -/
def codeOf : Colour → Nat
  | .black => 30
  | .red => 31
  | .green => 32
  | .yellow => 33
  | .blue => 34
  | .brightRed => 91

/-- The codes that select a style. -/
def codesOf (style : Style) : List Nat :=
  (if style.bold then [1] else []) ++ (if style.underlined then [4] else [])
    ++ (style.letters.map codeOf).toList
    ++ (style.ground.map fun colour => codeOf colour + 10).toList

namespace Row

/-- How far apart the columns are that a tab goes to. -/
def tabWidth : Nat := 8

/-- Whether a character would move the cursor back or down, or ring the bell. -/
def isControl (c : Char) : Bool := [7, 8, 11, 12, 13].contains c.toNat

/-- Spaces for the tabs of a text that starts in a column. -/
def expandTabs (column : Nat) : List Char → List Char
  | [] => []
  | '\t' :: rest =>
    let width := tabWidth - column % tabWidth
    List.replicate width ' ' ++ expandTabs (column + width) rest
  | c :: rest => c :: expandTabs (column + 1) rest

/-- The pieces of a line with spaces for tabs. -/
def expandLine (column : Nat) : List Piece → List Piece
  | [] => []
  | piece :: rest =>
    let text := expandTabs column piece.text
    { piece with text } :: expandLine (column + text.length) rest

/-- Cut pieces into lines. -/
def linesOf : List Piece → List (List Piece)
  | [] => [[]]
  | piece :: rest => cut piece.style piece.text (linesOf rest)
where
  /-- Cut a piece in front of lines. -/
  cut (style : Style) : List Char → List (List Piece) → List (List Piece)
    | [], lines => lines
    | '\n' :: text, lines => [] :: cut style text lines
    | c :: text, lines =>
      match cut style text lines with
      | [] => [[{ style, text := [c] }]]
      | line :: others => attach style c line :: others
  /-- Put a character in front of a line. -/
  attach (style : Style) (c : Char) : List Piece → List Piece
    | piece :: rest =>
      if piece.style = style then { piece with text := c :: piece.text } :: rest
      else { style, text := [c] } :: piece :: rest
    | [] => [{ style, text := [c] }]

/-- The text of a piece, with the codes of its style if colours are shown. -/
def render (colours : Bool) (piece : Piece) : List Char :=
  let codes := codesOf piece.style
  if !colours || codes.isEmpty || piece.text.isEmpty then piece.text
  else '\x1b' :: '[' :: (";".intercalate (codes.map toString)).toList ++ 'm' :: piece.text
    ++ ['\x1b', '[', '0', 'm']

end Row

/-- The text of pieces for a terminal, with or without colours. -/
def terminal (colours : Bool) : Console := fun pieces =>
  let shown := pieces.map fun piece =>
    { piece with text := piece.text.filter fun c => !Row.isControl c }
  let lines := (Row.linesOf shown).map fun line =>
    (Row.expandLine 0 line).flatMap (Row.render colours)
  String.ofList (lines.flatMap fun line => line ++ ['\n'])

/-! ## Emoji -/

/-- Emoji by their names. -/
def emojiNames : List (String × Char) :=
  [("heavy_check_mark", '✔'), ("smile", '😄'), ("warning", '⚠'), ("x", '❌')]

/-- The emoji of a name, in capital letters as in small ones. -/
def emojiOf? (name : List Char) : Option (List Char) :=
  (emojiNames.lookup (String.ofList (name.map Char.toLower))).map fun c => [c]

/-- A text without an end. -/
def withoutEnd? (ending text : List Char) : Option (List Char) :=
  if ending.isSuffixOf text then some (text.take (text.length - ending.length)) else none

/-- The emoji that the text between two colons stands for. Its end may ask for the emoji as text or
as a picture. -/
def named? (text : List Char) : Option (List Char) :=
  match withoutEnd? "-text".toList text, withoutEnd? "-emoji".toList text with
  | some name, _ => (emojiOf? name).map (· ++ ['\uFE0E'])
  | _, some name => (emojiOf? name).map (· ++ ['\uFE0F'])
  | _, _ => emojiOf? text

/-- A text with emoji in place of their names, as far as `fuel` reaches. -/
def replaceNames : Nat → List Char → List Char
  | fuel + 1, ':' :: rest =>
    let stops (c : Char) : Bool := c = ':' || Text.isBlank c
    let name := rest.takeWhile fun c => !stops c
    match rest.drop name.length with
    | ':' :: after => (named? name).getD (':' :: name ++ [':']) ++ replaceNames fuel after
    | _ => ':' :: replaceNames fuel rest
  | fuel + 1, c :: rest => c :: replaceNames fuel rest
  | _, text => text

/-! ## Tags -/

/-- A part of a text with tags. -/
inductive TaggedPart where
  /-- Characters. -/
  | plain (text : List Char)
  /-- A tag in its brackets, after so many backslashes. -/
  | tag (backslashes : Nat) (text : List Char)

/-- Whether a tag can start with a character: a small letter or one of three signs. -/
def startsTag (c : Char) : Bool := ('a' ≤ c && c ≤ 'z') || ['#', '/', '@'].contains c

/-- The tag that a text starts with. -/
def tagAt? : List Char → Option (List Char)
  | '[' :: c :: rest =>
    let inside := rest.takeWhile fun c => c ≠ '[' && c ≠ ']'
    if startsTag c && (rest.drop inside.length).head? = some ']' then
      some ('[' :: c :: inside ++ [']'])
    else none
  | _ => none

/-- The parts of a text, as far as `fuel` reaches. -/
def taggedParts : Nat → List Char → List TaggedPart
  | fuel + 1, c :: rest =>
    let text := c :: rest
    let backslashes := (text.takeWhile (· = '\\')).length
    match tagAt? (text.drop backslashes) with
    | some tag =>
      .plain [] :: .tag backslashes tag :: taggedParts fuel (text.drop (backslashes + tag.length))
    | none =>
      match taggedParts fuel rest with
      | .plain first :: parts => .plain (c :: first) :: parts
      | parts => .plain [c] :: parts
  | _, text => [.plain text]

/-- A text with a backslash in front of each tag, and those before it doubled. One at the end that
stands alone is doubled as well. -/
def quoteTags (text : String) : String :=
  let quoted := (taggedParts text.length text.toList).flatMap fun
    | .plain text => text
    | .tag backslashes tag => List.replicate (2 * backslashes + 1) '\\' ++ tag
  let isAlone := ['\\'].isSuffixOf quoted && !(['\\', '\\'].isSuffixOf quoted)
  String.ofList (if isAlone then quoted ++ ['\\'] else quoted)

/-- A text without the backslashes before brackets. -/
def dropBackslashes : List Char → List Char
  | '\\' :: '[' :: rest => '[' :: dropBackslashes rest
  | c :: rest => c :: dropBackslashes rest
  | [] => []

/-- What is shown of a part. -/
def TaggedPart.shown : TaggedPart → List Char
  | .plain text => replaceNames text.length (dropBackslashes text)
  | .tag backslashes text =>
    List.replicate (backslashes / 2) '\\'
      ++ if backslashes % 2 = 1 then replaceNames text.length (dropBackslashes text) else []

/-- A text with tags as a terminal shows it. -/
def showTagged (text : String) : String :=
  let parts := taggedParts text.length text.toList
  terminal false [{ text := parts.flatMap TaggedPart.shown }]

end LintBench.Host
