import LintBench.Host.Arguments
import LintBench.Host.IgnoreRules
import LintBench.Host.MessagePack
import LintBench.Host.Terminal
import LintBench.Tools

/-!
# The tools of a machine

What the libraries do for a run on a terminal without colours. Which programs there
are is left to the machine.
-/

namespace LintBench.Host

/-- The tools of a machine that runs programs in a given way. -/
def tools (interpret : Interpreter) : Tools where
  interpret
  readRules
  unpack := MessagePack.unpack
  readOptions
  console := terminal false
  quoteTags
  showTagged

end LintBench.Host
