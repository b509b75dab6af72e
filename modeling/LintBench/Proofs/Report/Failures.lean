import LintBench.Proofs.Keyed
import LintBench.Report.Message

/-!
# The messages on failures

Failures are told file by file in ascending order of the paths, each exactly once.
Which issues the messages tell of a path, and in which order two messages stand,
settles between them what is told.
-/

namespace LintBench

namespace Message

/-- Whether a message tells of an issue that fails a test. -/
def isFailure : Message → Bool
  | .issue .. => true
  | _ => false

end Message

section Sorted

variable {α : Type} {entries : Keyed α}

end Sorted

/-! ## What is told -/

end LintBench
