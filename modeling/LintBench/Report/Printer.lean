import LintBench.Files.Path
import LintBench.Report.Message
import LintBench.Report.Styled
import LintBench.Text.Number

/-!
# Printers

A printer gives messages their form. The plain one writes a line for each
failure, the pretty one groups failures below their files and uses colours, and
the silent one writes nothing. A message that cannot be written stops a printer;
what it wrote before that stays written.
-/

namespace LintBench

/-- The forms that messages have. -/
inductive PrinterStyle where
  /-- One line for each failure. -/
  | plain
  /-- Failures below the names of their files, as seen from a directory, on a console. -/
  | pretty (base : Path) (console : Console)
  /-- Nothing. -/
  | silent
deriving Inhabited

/-- A printer, and what it has shown. -/
structure Printer where
  /-- The form of its messages. -/
  style : PrinterStyle
  /-- The files that have been named. -/
  named : List String := []
deriving Inhabited

/-- Why a message is not written. -/
inductive PrintFault where
  /-- Half of a surrogate pair stands alone in it. -/
  | unencodable
  /-- A line number in it has more digits than a numeral may have. -/
  | numeralTooLong
deriving DecidableEq, Repr

/-- What a message comes to on the two outputs. -/
structure Printed where
  /-- What goes to the first output. -/
  output : String := ""
  /-- What goes to the second output. -/
  errors : String := ""
  /-- Why it is not written to its end, if it is not. -/
  fault : Option PrintFault := none
deriving DecidableEq, Repr, Inhabited

/-- Put text in front of spaces up to a width. -/
def padRight (width : Nat) (text : String) : String :=
  text ++ String.ofList (List.replicate (width - text.length) ' ')

/-- Put spaces in front of a text up to a width. -/
def padLeft (width : Nat) (text : String) : String :=
  String.ofList (List.replicate (width - text.length) ' ') ++ text

namespace Plain

/-- A place in a file; a column that was not given is left out. -/
def place (file : String) (line column : Int) : String :=
  file ++ ":" ++ Text.showInteger line
    ++ (if column = 0 then "" else ":" ++ Text.showInteger column)

/-- A line with its end. -/
def ended (line : String) : String := if line.endsWith "\n" then line else line ++ "\n"

/-- The form of a message. -/
def print : Message → Printed
  | .header text => { errors := text ++ "\n" }
  | .issue file line column kind issue =>
    match issue.code.toString? with
    | some code =>
      { output := place file line column ++ " " ++ kind.text ++ " " ++ code ++ ": "
          ++ String.ofList (Json.writeString issue.title) ++ "\n" }
    | none => { fault := some .unencodable }
  | .diff file lines => { output := file ++ "\n" ++ String.join (lines.map ended) }
  | .identical file => { output := file ++ ": file is identical to the golden file\n" }
  | .status _ => {}
  | .warning text => { output := "Warn: " ++ text ++ "\n" }

end Plain

namespace Pretty

/-- The names of a path in which two dots take back the name before them. -/
def settledNames (names : List String) : List String :=
  names.foldl (fun settled name => if name = ".." then settled.dropLast else settled ++ [name]) []

/-- A file as seen from a directory; without a path there is nothing to see. -/
def seenFrom (base : Path) (file : String) : String :=
  if file = "" then ""
  else
    let names := settledNames (Path.ofString file).names
    let seen := Path.relativeNames (settledNames base.names) names
    ({ names := seen } : Path).toString

/-- The look of a file's name. -/
def fileStyle : Style := { bold := true, letters := some .brightRed }

/-- The look of a header. -/
def headerStyle : Style := { bold := true, underlined := true, letters := some .yellow }

/-- The line with a file's name. -/
def fileLine (text : String) : List Piece := [styled fileStyle ("# " ++ text)]

/-- The line of an issue, if it can be written. -/
def issueLine (line column : Int) (kind : FailureKind) (issue : Issue) : Option (List Piece) := do
  let place := "Line: " ++ Text.showInteger line
    ++ (if column = 0 then "" else ", Col: " ++ Text.showInteger column)
  let code ← issue.code.toString?
  let title ← issue.title.toString?
  return [styled { letters := some .blue } (padRight 20 place ++ padRight 18 code),
    styled { letters := some .red } ("  " ++ kind.text),
    plain ("  " ++ title)]

/-- Lines that a message comes to, and why they do not go on to its end. -/
structure Lines where
  /-- The lines that are written. -/
  written : List (List Piece)
  /-- Why no more are. -/
  fault : Option PrintFault := none

/-! ## Diffs -/

/-- Digits at the front of a text, and the text after them. -/
def takeDigits (text : List Char) : Option (List Char × List Char) :=
  let digits := text.takeWhile Text.isDecimalDigit
  if digits.isEmpty then none else some (digits, text.dropWhile Text.isDecimalDigit)

/-- Drop a comma and digits. -/
def dropCount (text : List Char) : List Char :=
  match text with
  | ',' :: rest => ((takeDigits rest).map Prod.snd).getD text
  | _ => text

/-- Take a word off the front of a text. -/
def takeWord (word : String) (text : List Char) : Option (List Char) :=
  if word.toList.isPrefixOf text then some (text.drop word.length) else none

/-- The digits of the first old line and of the first new line of a hunk, from its header. -/
def hunkStart? (line : List Char) : Option (List Char × List Char) := do
  let (old, rest) ← takeDigits (← takeWord "@@ -" line)
  let (new, rest) ← takeDigits (← takeWord " +" (dropCount rest))
  let _ ← takeWord " @@" (dropCount rest)
  return (old, new)

/-- Where a diff is: the numbers of the next old and the next new line. -/
structure DiffPlace where
  /-- The number of the next old line. -/
  old : Nat := 0
  /-- The number of the next new line. -/
  new : Nat := 0
deriving DecidableEq, Repr, Inhabited

/-- A line of a diff with its number. -/
def numbered (mark : String) (number : Nat) (content : List Char) : String :=
  mark ++ " " ++ padLeft 4 (toString number) ++ "│ " ++ String.ofList content

/-- A line without the ends after it. -/
def withoutEnds (line : String) : List Char := (line.toList.reverse.dropWhile (· = '\n')).reverse

/-- What one line of a diff comes to; none if it has a number that is not read. The names of the
two files are left out, and a hunk's header is an empty line. -/
def diffLine (place : DiffPlace) (line : List Char) : Option (DiffPlace × List (List Piece)) :=
  if ['-', '-', '-'].isPrefixOf line || ['+', '+', '+'].isPrefixOf line then some (place, [])
  else match hunkStart? line with
    | some (oldDigits, newDigits) => do
      let old ← Text.readDigits oldDigits
      let new ← Text.readDigits newDigits
      return (⟨old, new⟩, [[]])
    | none =>
      let content := line.drop 1
      match line.head? with
      | some '-' => some ({ place with old := place.old + 1 },
          [[styled { letters := some .red } (numbered "-" place.old content)]])
      | some '+' => some ({ place with new := place.new + 1 },
          [[styled { letters := some .green } (numbered "+" place.new content)]])
      | _ => some (⟨place.old + 1, place.new + 1⟩, [[plain (numbered " " place.new content)]])

/-- What the lines of a diff come to. -/
def diffLines (place : DiffPlace) : List String → Lines
  | [] => { written := [] }
  | line :: rest =>
    match diffLine place (withoutEnds line) with
    | some (next, shown) =>
      let others := diffLines next rest
      { others with written := shown ++ others.written }
    | none => { written := [], fault := some .numeralTooLong }

/-! ## Messages -/

/-- The form of a message, line by line, and the files that have been named after it. -/
def lines (base : Path) (named : List String) : Message → Lines × List String
  | .header text => ({ written := [[styled headerStyle text]] }, named)
  | .issue file line column kind issue =>
    let isNamed := named.contains file
    let above := if isNamed then [] else [[], fileLine (seenFrom base file)]
    let lines : Lines := match issueLine line column kind issue with
      | some row => { written := above ++ [row] }
      | none => { written := above, fault := some .unencodable }
    (lines, if isNamed then named else named ++ [file])
  | .diff file lines =>
    let shown := diffLines {} lines
    ({ shown with written := [] :: fileLine file :: shown.written }, named)
  | .identical file =>
    ({ written := [fileLine (file ++ ": Input file identical to the golden file")] }, named)
  | .status passed =>
    let verdict := if passed then styled { letters := some .black, ground := some .green } "Passed"
      else styled { letters := some .black, ground := some .brightRed } "Failed"
    ({ written := [[], [verdict]] }, named)
  | .warning text =>
    ({ written := [[styled { letters := some .black, ground := some .yellow } "WARN", plain " ",
      styled { letters := some .yellow } text]] }, named)

end Pretty

namespace Printer

/-- Give a message its form. -/
def print (printer : Printer) (message : Message) : Printer × Printed :=
  match printer.style with
  | .plain => (printer, Plain.print message)
  | .silent => (printer, {})
  | .pretty base console =>
    let (lines, named) := Pretty.lines base printer.named message
    ({ printer with named },
      { output := String.join (lines.written.map console), fault := lines.fault })

/-- Give messages their form, one after the other, up to one that is not written to its end. -/
def printAll (printer : Printer) : List Message → Printer × Printed
  | [] => (printer, {})
  | message :: rest =>
    let (next, first) := printer.print message
    if first.fault.isSome then (next, first)
    else
      let (last, others) := next.printAll rest
      (last, { others with
        output := first.output ++ others.output, errors := first.errors ++ others.errors })

end Printer

end LintBench
