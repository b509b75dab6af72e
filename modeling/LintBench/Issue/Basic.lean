import LintBench.Text.Loose

/-!
# Reported issues

What an analyzer reports: an issue code, a title, and a position in a file. The
file is kept as it was reported, beside the resolved path that issues are
matched by.
-/

namespace LintBench

/-- A place in a file; zero stands for a line or column that was not given. -/
structure Location where
  /-- The line. -/
  line : Int := 0
  /-- The column. -/
  column : Int := 0
deriving DecidableEq, Repr, Inhabited

/-- Where an issue was raised. -/
structure Position where
  /-- The file as it was reported. -/
  file : LooseText := {}
  /-- Where the issue starts. -/
  start : Location := {}
  /-- Where it ends, if that was reported. -/
  stop : Option Location := none
  /-- The resolved path of the file; empty if it could not be resolved. -/
  resolved : String := ""
deriving DecidableEq, Repr, Inhabited

/-- One finding of an analyzer. -/
structure Issue where
  /-- The issue code. -/
  code : LooseText
  /-- What the analyzer says about it. -/
  title : LooseText := {}
  /-- Where it was raised. -/
  position : Position := {}
deriving DecidableEq, Repr, Inhabited

/-- The codes that occur among issues. -/
def issueCodes (issues : List Issue) : List LooseText := (issues.map Issue.code).eraseDups

end LintBench
