import LintBench.Proofs.Files.Unlinked
import LintBench.Suite.Config

/-!
# Where the fixtures of a suite stand

In a tree without links the directory of the fixtures is where its path leads down to.
This is said once here for every such tree and every suite, and a fixed tree is asked by
evaluation.
-/

namespace LintBench.Tree

/-- Whether a tree without links has the fixtures of a suite in a directory. -/
structure Houses (tree : Tree) (config : Config) (base : Place) : Prop where
  /-- There are no links. -/
  unlinked : tree.Unlinked
  /-- The path to the directory goes down. -/
  level : Level base
  /-- The suite names the directory. -/
  named : config.root / Path.ofString (if Text.trimmed config.codePath = "" then "."
    else Text.trimmed config.codePath) = .ofNames base
  /-- The directory stands. -/
  directory : tree.Stands (.ofNames base) (some .directory)

variable {tree : Tree} {config : Config} {base : Place}

instance : Decidable (tree.Houses config base) :=
  decidable_of_iff
    (tree.Unlinked ∧ Level base ∧
      config.root / Path.ofString (if Text.trimmed config.codePath = "" then "."
        else Text.trimmed config.codePath) = .ofNames base ∧
      tree.Stands (.ofNames base) (some .directory))
    ⟨fun ⟨unlinked, level, named, directory⟩ => ⟨unlinked, level, named, directory⟩,
      fun ⟨unlinked, level, named, directory⟩ => ⟨unlinked, level, named, directory⟩⟩

/-- The directory of the fixtures is found. -/
theorem Houses.codeDir_eq (houses : tree.Houses config base) :
    config.codeDir tree = .ok (.ofNames base) := by
  simp only [Config.codeDir, houses.named]
  exact Tree.resolveLenient_of_stands houses.unlinked houses.level houses.directory

/-- The directory is where its path leads. -/
theorem Houses.resolveStrict_eq (houses : tree.Houses config base) :
    tree.resolveStrict (.ofNames base) = .ok (.ofNames base) :=
  Tree.resolveStrict_of_stands houses.unlinked houses.level houses.directory

end LintBench.Tree
