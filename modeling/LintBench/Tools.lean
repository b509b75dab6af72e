import LintBench.Autofix.Snapshot
import LintBench.CommandLine.Request
import LintBench.Report.Printer
import LintBench.Run.Script

/-!
# Tools

What a run makes use of and does not say itself. A machine runs the programs, and
libraries read ignore files, packed documents and arguments, and show text on a
terminal. What is said about runs holds for any tools.
-/

namespace LintBench

/-- What the machine and the libraries do for a run. -/
structure Tools where
  /-- Runs programs. -/
  interpret : Interpreter
  /-- Reads the lines of an ignore file. -/
  readRules : IgnoreReader
  /-- Decodes packed documents. -/
  unpack : Unpacker
  /-- Parts the arguments of the program. -/
  readOptions : CommandLine.OptionReader CommandLine.Meaning
  /-- Shows styled text on the terminal of a run. -/
  console : Console
  /-- Quotes what looks like a tag in a text. -/
  quoteTags : String → String
  /-- Shows a text on a terminal in the styles that its tags ask for. -/
  showTagged : String → String

namespace Tools

/-- The line that tells an error. -/
def errorLine (tools : Tools) (message : String) : String :=
  tools.showTagged ("[red bold]error:[/red bold] " ++ tools.quoteTags message)

end Tools

/-- The document that tells an error. -/
def errorDocument (message : String) : String :=
  Json.write (.ofMembers [("error", .text (.ofString message))]) ++ "\n"

end LintBench
