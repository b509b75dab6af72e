import LintBench.Issue.Result
import LintBench.Proofs.Files.Defying
import LintBench.Proofs.Issue.RoundTrip
import LintBench.Proofs.Suite.Restriction

/-!
# Normalizing the paths of a result

The issues of a result keep their order, and each gets the resolved path of its file,
or an empty one where the tree does not let the path resolve. So do the paths that are
listed to limit a run. Only a path that defies resolution is a fault: the first such
path of a result is the fault of the result, and likewise of a list.
-/

namespace LintBench

/-- What an issue becomes when the path of its file is normalized. -/
def Issue.NormalizedTo (tree : Tree) (codeDir : Path) (issue result : Issue) : Prop :=
  ∃ outcome, tree.NormalizesTo codeDir issue.position.file outcome ∧
    result = { issue with
      position := { issue.position with resolved := (outcome.map Path.toString).getD "" } }

section Normalizing

variable {tree : Tree} {codeDir : Path} {issue result : Issue} {fault : FileFault}

/-- Resolving the file of an issue gives the issue it is normalized to. -/
theorem Issue.resolveFile_eq_ok_iff :
    issue.resolveFile tree codeDir = .ok result ↔ issue.NormalizedTo tree codeDir result := by
  rw [resolveFile, Runs.bind_eq_ok]
  constructor
  · rintro ⟨outcome, found, same⟩
    cases same
    exact ⟨outcome, Tree.resolveReported_eq_ok_iff.1 found, rfl⟩
  · rintro ⟨outcome, normalizes, rfl⟩
    exact ⟨outcome, Tree.resolveReported_eq_ok_iff.2 normalizes, rfl⟩

/-- A result whose issues are read is one whose files are resolved in turn. -/
theorem readResult_of_issues {document : Value} {issues : List Issue}
    (read : issuesOfValue document = .ok issues) :
    readResult tree codeDir document =
      (issues.mapM (Issue.resolveFile tree codeDir)).mapError .file := by
  rw [readResult, read]
  rfl

end Normalizing

namespace LinkedFiles

/-- A file, a link to it, a link to that link, and a link that leads through the file to itself. -/
def tree : Tree :=
  { nodes := [(["a.go"], .file []), (["b.go"], .link "a.go"), (["c.go"], .link "b.go"),
      (["d.go"], .link "a.go/../d.go")] }

/-- The directory of the fixtures. -/
def codeDir : Path := .ofNames []

/-- An issue in a file. -/
def fileIssue (file resolved : String) : Issue :=
  { code := "A-1", position := { file := .ofString file, resolved } }

/-- What stands below the root is found by its name. -/
theorem nodeAt_name {name : String} {node : Node} (fits : (Path.ofNames [name]).Fits)
    (found : tree.get? [name] = some node) : tree.nodeAt [name] = .ok node :=
  Tree.nodeAt_of_enterable fits tree.enterable_nil found

/-- Two links lead to the file. -/
theorem resolves_chain : tree.Resolves (codeDir / .ofString "c.go") (.ofNames ["a.go"]) := by
  have room (inside : List Place) (few : inside.length < 2) : inside.length < Tree.deepestLinks :=
    Nat.lt_trans few (by decide)
  have file : tree.Resolution [["b.go"], ["c.go"]] [] [] ["a.go"] (.ok ([], ["a.go"])) :=
    .enter (by decide) (by decide) (nodeAt_name (by decide) rfl) (by simp) (.done _ _ _)
  have near : tree.Resolution [["c.go"]] [] [] ["b.go"]
      (.ok ([(["b.go"], ["a.go"])], ["a.go"])) :=
    .jump ⟨by decide, by decide, nodeAt_name (by decide) rfl⟩ rfl (by decide) (room _ (by decide))
      file (.done _ _ _)
  have far : tree.Resolution [] [] [] ["c.go"]
      (.ok ([(["c.go"], ["a.go"]), (["b.go"], ["a.go"])], ["a.go"])) :=
    .jump ⟨by decide, by decide, nodeAt_name (by decide) rfl⟩ rfl (by decide) (room _ (by decide))
      near (.done _ _ _)
  exact ⟨_, ["a.go"], far, rfl⟩

/-- The path leads nowhere. -/
theorem breaks_missing : tree.Breaks (codeDir / .ofString "gone.go") .missing :=
  .blocked [] [] [] (by decide) (by decide)
    (Tree.nodeAt_of_missing (by decide) tree.enterable_nil rfl)

end LinkedFiles

namespace SelfLink

/-- A link that leads to itself. -/
def tree : Tree := { nodes := [(["a"], .link "a")] }

/-- The directory of the fixtures. -/
def codeDir : Path := .ofNames []

/-- An issue in the link. -/
def issue : Issue := { code := "A-1", position := { file := "a" } }

end SelfLink

end LintBench
