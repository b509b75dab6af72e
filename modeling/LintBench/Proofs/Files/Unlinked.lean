import LintBench.Proofs.Files.Growth
import LintBench.Proofs.Files.PathText
import LintBench.Suite.Config

/-!
# Trees without links

In a tree without links a path that goes down stands for the place of its names.
What is looked up there, and what a change does, is told in terms of that place:
the directories above it, what stands at it, and whether the path fits.
-/

namespace LintBench

open Text (Bytes)

/-- The way to a path that fits does so itself. -/
theorem Path.Fits.mono {front names : List String} (fits : (Path.ofNames names).Fits)
    (above : front <+: names) : (Path.ofNames front).Fits where
  noNul := by
    have noNul := fits.noNul
    rw [List.any_eq_false] at noNul ⊢
    exact fun name member => noNul name (above.subset member)
  short := Nat.le_trans (Path.utf8ByteSize_toString_le above) fits.short
  steps name member := fits.steps name (above.subset member)

namespace Tree

variable {tree after : Tree} {path : Path}

/-- What is not below an erased place is as it was. -/
theorem get?_erase_of_not_below (tree : Tree) {place asked : Place} (apart : ¬ place <+: asked) :
    (tree.erase place).get? asked = tree.get? asked := by
  by_cases root : asked = []
  · simp [root]
  · rw [get?_erase tree place asked root, if_neg]
    rwa [List.isPrefixOf_iff_prefix]

/-- Nothing is below an erased place. -/
theorem get?_erase_of_below (tree : Tree) {place asked : Place} (inner : asked ≠ [])
    (under : place <+: asked) : (tree.erase place).get? asked = none := by
  rw [get?_erase tree place asked inner, if_pos (List.isPrefixOf_iff_prefix.2 under)]

/-! ## Looking up -/

/-- What a path leads to is what stands where it is located. -/
theorem node_eq_ok_iff {node : Node} :
    tree.node path = .ok node ↔ ∃ spot, tree.locate true path = .ok spot ∧ spot.node = some node := by
  unfold Tree.node
  rcases tree.locate true path with fault | ⟨place, _ | found⟩ <;> simp

/-- A path leads to a node that passes a test exactly if it leads to one. -/
theorem nodeIs_eq_true_iff {test : Node → Bool} :
    tree.nodeIs test path = .ok true ↔ ∃ node, tree.node path = .ok node ∧ test node = true := by
  unfold nodeIs
  rcases tree.node path with fault | found
  · simp only [reduceCtorEq, false_and, exists_false, iff_false]
    split <;> simp
  · simp

/-- The content of a file is read where the path leads to that file. -/
theorem content_eq_ok_iff {content : Bytes} :
    tree.content path = .ok content ↔ tree.node path = .ok (.file content) := by
  rw [Tree.content]
  rcases tree.node path with fault | (found | _ | _) <;> simp

/-- A path leads to a file exactly if there is a content to read. -/
theorem isFile_eq_true_iff :
    tree.isFile path = .ok true ↔ ∃ content, tree.content path = .ok content := by
  simp only [isFile, nodeIs_eq_true_iff, content_eq_ok_iff]
  constructor
  · rintro ⟨node, found, passes⟩
    cases node with
    | file content => exact ⟨content, found⟩
    | link => cases passes
    | directory => cases passes
  · rintro ⟨content, found⟩
    exact ⟨.file content, found, rfl⟩

/-- A path is that of a file if it leads to one. -/
theorem isFile_eq_true_iff_leadsToFile :
    tree.isFile path = .ok true ↔ ∃ place, tree.LeadsToFile path place := by
  rw [isFile_eq_true_iff]
  simp only [content_eq_ok_iff, node_eq_ok_iff, LeadsToFile]
  constructor
  · rintro ⟨content, ⟨place, node⟩, located, rfl⟩
    exact ⟨place, content, located⟩
  · rintro ⟨place, content, located⟩
    exact ⟨content, _, located, rfl⟩

/-- A path leads to a directory exactly if it leads to that node. -/
theorem isDirectory_eq_true_iff :
    tree.isDirectory path = .ok true ↔ tree.node path = .ok .directory := by
  simp only [isDirectory, nodeIs_eq_true_iff]
  constructor
  · rintro ⟨node, found, passes⟩
    cases node with
    | file content => cases passes
    | link => cases passes
    | directory => exact found
  · exact fun found => ⟨.directory, found, rfl⟩

/-! ## What is located -/

/-- A directory that is located need not be made. -/
theorem makeDirectories_of_locate {place : Place}
    (located : tree.locate false path = .ok ⟨place, some .directory⟩) :
    tree.makeDirectories path = .ok tree := by
  have reached : tree.locate true path = .ok ⟨place, some .directory⟩ :=
    locate_of_noLink located (by simp) true
  refine makeDirectories_of_occupied ?_
    (isDirectory_eq_true_iff.2 (node_eq_ok_iff.2 ⟨_, reached, rfl⟩))
  rw [makeDirectory, located]

/-- A file that is located can be copied to another place that is located, where no directory
stands. -/
theorem copy_of_locate {source target : Path} {here place : Place} {content : Bytes}
    {node : Option Node} (one : tree.locate true source = .ok ⟨here, some (.file content)⟩)
    (other : tree.locate true target = .ok ⟨place, node⟩) (apart : here ≠ place)
    (free : node ≠ some .directory) :
    tree.copy source target = .ok (tree.set place (.file content)) := by
  have goal : tree.copyTarget source target = target := by
    unfold copyTarget
    split
    · rename_i there
      obtain ⟨spot, located, directory⟩ := node_eq_ok_iff.1 (isDirectory_eq_true_iff.1 there)
      rw [other] at located
      cases located
      exact absurd directory free
    · rfl
  refine copy_eq_ok_iff.2 ⟨?_, content, content_eq_ok_iff.2 (node_eq_ok_iff.2 ⟨_, one, rfl⟩), ?_⟩
  · simp only [goal, sameNode, one, other]
    cases node <;> simp [apart]
  · rw [goal]
    exact store_eq_ok_iff.2 ⟨_, other, free, rfl⟩

/-! ## What stands at a place -/

/-- Whether a path that fits leads to a place through directories, and what stands there. -/
structure Stands (tree : Tree) (path : Path) (node : Option Node) : Prop where
  /-- The path fits. -/
  fits : path.Fits
  /-- Directories stand above the place. -/
  above : tree.Enterable path.names.dropLast
  /-- That is what stands there. -/
  found : tree.get? path.names = node

instance (tree : Tree) (path : Path) (node : Option Node) : Decidable (tree.Stands path node) :=
  decidable_of_iff
    (path.Fits ∧ tree.Enterable path.names.dropLast ∧ tree.get? path.names = node)
    ⟨fun ⟨fits, above, found⟩ => ⟨fits, above, found⟩,
      fun ⟨fits, above, found⟩ => ⟨fits, above, found⟩⟩

/-- It matters only what stands on the way. -/
theorem Stands.congr {other : Tree} {node : Option Node} (stands : tree.Stands path node)
    (same : ∀ front, front <+: path.names → other.get? front = tree.get? front) :
    other.Stands path node where
  fits := stands.fits
  above front under := by
    rw [same front (under.trans (List.dropLast_prefix _)), stands.above front under]
  found := by rw [same _ (List.prefix_refl _), stands.found]

/-- A directory that stands at a place can be entered. -/
theorem Stands.enterable (stands : tree.Stands path (some .directory)) :
    tree.Enterable path.names := by
  intro front above
  by_cases here : front = path.names
  · rw [here, stands.found]
  · have inner : path.names ≠ [] := by
      intro root
      rw [root] at above here
      exact here (List.prefix_nil.1 above)
    exact stands.above front ((prefix_dropLast_iff inner).2 ⟨above, here⟩)

/-- What stands at a place still stands there in a tree that extends this one, but for the content
of a file. -/
theorem Stands.extend {node : Node} (stands : tree.Stands path (some node))
    (grown : tree.Extends after) :
    ∃ next, after.Stands path (some next) ∧ node.SameKind next := by
  obtain ⟨next, found, kind⟩ := grown.kept path.names node stands.found
  refine ⟨next, ⟨stands.fits, fun front above => ?_, found⟩, kind⟩
  obtain ⟨still, there, same⟩ := grown.kept front _ (stands.above front above)
  rw [there, show Node.directory = still from same]

/-- What stands at a place still stands there after another one was set where no directory was. -/
theorem Stands.set {place : Place} {node new : Node} (stands : tree.Stands path (some node))
    (other : place ≠ path.names) (free : tree.get? place ≠ some .directory) :
    (tree.set place new).Stands path (some node) := by
  have inner : place ≠ [] := by
    rintro rfl
    exact free tree.get?_nil
  constructor
  case fits => exact stands.fits
  case above =>
    intro front under
    rw [get?_set tree place front new inner, if_neg, stands.above front under]
    rintro rfl
    exact free (stands.above _ under)
  case found => rw [get?_set tree place _ new inner, if_neg other, stands.found]

/-- What is set at a place stands there. -/
theorem Stands.set_self {node : Option Node} (stands : tree.Stands path node) (new : Node)
    (inner : path.names ≠ []) : (tree.set path.names new).Stands path (some new) where
  fits := stands.fits
  above front under := by
    rw [get?_set tree path.names front new inner, if_neg, stands.above front under]
    exact ((prefix_dropLast_iff inner).1 under).2.symm
  found := by rw [get?_set tree path.names _ new inner, if_pos rfl]

/-- What stands at a place still stands there after another one was erased that is not above. -/
theorem Stands.erase {place : Place} {node : Node} (stands : tree.Stands path (some node))
    (apart : ¬ place <+: path.names) : (tree.erase place).Stands path (some node) := by
  refine stands.congr fun front above => ?_
  by_cases root : front = []
  · simp [root]
  · rw [get?_erase tree place front root, if_neg]
    rw [List.isPrefixOf_iff_prefix]
    exact fun under => apart (under.trans above)

section Level

variable (unlinked : tree.Unlinked) (level : Level path.names)
include unlinked level

/-- Without links a path that goes down is located at the place of its names. -/
theorem locate_eq_ok_iff_stands {through : Bool} {spot : Spot} :
    tree.locate through path = .ok spot ↔
      spot.place = path.names ∧ tree.Stands path spot.node := by
  rw [locate_eq_ok_iff_of_level unlinked level]
  constructor
  · rintro ⟨fits, above, rfl⟩
    exact ⟨rfl, fits, above, rfl⟩
  · rintro ⟨here, fits, above, found⟩
    obtain ⟨place, node⟩ := spot
    simp only at here found
    exact ⟨fits, above, by rw [here, found]⟩

/-- Looking at a path gives what stands there. -/
theorem node_eq_ok_iff_stands {node : Node} :
    tree.node path = .ok node ↔ tree.Stands path (some node) := by
  rw [node_eq_ok_iff]
  simp only [locate_eq_ok_iff_stands unlinked level]
  constructor
  · rintro ⟨spot, ⟨-, stands⟩, there⟩
    rwa [there] at stands
  · intro stands
    exact ⟨⟨path.names, some node⟩, ⟨rfl, stands⟩, rfl⟩

/-- Reading a path gives the content of the file that stands there. -/
theorem content_eq_ok_iff_stands {content : Bytes} :
    tree.content path = .ok content ↔ tree.Stands path (some (.file content)) :=
  content_eq_ok_iff.trans (node_eq_ok_iff_stands unlinked level)

/-- Where nothing stands there is no file. -/
theorem isFile_of_absent (stands : tree.Stands path none) : tree.isFile path = .ok false := by
  have located : tree.locate true path = .ok ⟨path.names, none⟩ :=
    (locate_eq_ok_iff_stands unlinked level).2 ⟨rfl, stands⟩
  rw [isFile, nodeIs, node, located]
  rfl

/-- A file is stored at the place of the path, if no directory stands there. -/
theorem store_eq_ok_iff_stands {content : Bytes} :
    tree.store path content = .ok after ↔
      ∃ node, tree.Stands path node ∧ node ≠ some .directory ∧
        after = tree.set path.names (.file content) := by
  rw [store_eq_ok_iff]
  simp only [locate_eq_ok_iff_stands unlinked level]
  constructor
  · rintro ⟨⟨place, node⟩, ⟨here, stands⟩, free, rfl⟩
    exact ⟨node, stands, free, by rw [← show place = path.names from here]⟩
  · rintro ⟨node, stands, free, rfl⟩
    exact ⟨⟨path.names, node⟩, ⟨rfl, stands⟩, free, rfl⟩

/-- A directory is made at the place of the path, if nothing stands there. -/
theorem makeDirectory_eq_ok_iff_stands :
    tree.makeDirectory path = .ok after ↔
      tree.Stands path none ∧ after = tree.set path.names .directory := by
  rw [makeDirectory_eq_ok_iff]
  simp only [locate_eq_ok_iff_stands unlinked level]
  constructor
  · rintro ⟨⟨place, node⟩, ⟨here, stands⟩, free, rfl⟩
    simp only at here free
    rw [free] at stands
    exact ⟨stands, by rw [here]⟩
  · rintro ⟨stands, rfl⟩
    exact ⟨⟨path.names, none⟩, ⟨rfl, stands⟩, rfl, rfl⟩

/-- A directory that stands at the place of the path need not be made. -/
theorem makeDirectories_of_stands (stands : tree.Stands path (some .directory)) :
    tree.makeDirectories path = .ok tree := by
  have located : tree.locate false path = .ok ⟨path.names, some .directory⟩ :=
    (locate_eq_ok_iff_stands unlinked level).2 ⟨rfl, stands⟩
  exact makeDirectories_of_locate located

/-- A file is removed from the place of the path. -/
theorem discard_eq_ok_iff_stands :
    tree.discard path = .ok after ↔
      (∃ content, tree.Stands path (some (.file content))) ∧ after = tree.erase path.names := by
  constructor
  · intro discarded
    unfold discard at discarded
    split at discarded
    · cases discarded
    · cases discarded
    · rename_i place node absent directory located
      obtain ⟨here, stands⟩ := (locate_eq_ok_iff_stands unlinked level).1 located
      cases discarded
      simp only at here stands
      refine ⟨?_, by rw [here]⟩
      rcases node with _ | content | target | _
      · exact (absent rfl).elim
      · exact ⟨content, stands⟩
      · exact absurd stands.found (unlinked _ _)
      · exact (directory rfl).elim
    · cases discarded
  · rintro ⟨⟨content, stands⟩, rfl⟩
    have located : tree.locate false path = .ok ⟨path.names, some (.file content)⟩ :=
      (locate_eq_ok_iff_stands unlinked level).2 ⟨rfl, stands⟩
    rw [discard, located]

/-- A directory is removed with all that is below the place of the path. -/
theorem discardAll_eq_ok_iff_stands :
    tree.discardAll path = .ok after ↔
      tree.Stands path (some .directory) ∧ after = tree.erase path.names := by
  constructor
  · intro discarded
    unfold discardAll at discarded
    split at discarded
    · cases discarded
    · rename_i place located
      obtain ⟨here, stands⟩ := (locate_eq_ok_iff_stands unlinked level).1 located
      cases discarded
      exact ⟨stands, by rw [← show place = path.names from here]⟩
    · cases discarded
    · cases discarded
  · rintro ⟨stands, rfl⟩
    have located : tree.locate false path = .ok ⟨path.names, some .directory⟩ :=
      (locate_eq_ok_iff_stands unlinked level).2 ⟨rfl, stands⟩
    rw [discardAll, located]

/-- What is not below a removed directory is as it was. -/
theorem get?_discardAll (discarded : tree.discardAll path = .ok after) {place : Place}
    (apart : ¬ path.names <+: place) : after.get? place = tree.get? place := by
  obtain ⟨-, rfl⟩ := (discardAll_eq_ok_iff_stands unlinked level).1 discarded
  exact get?_erase_of_not_below tree apart

end Level

/-! ## Trees that stay without links -/

/-- Putting something other than a link into a tree makes no links. -/
theorem Unlinked.set {place : Place} {node : Node} (unlinked : tree.Unlinked)
    (plain : ∀ target, node ≠ .link target) : (tree.set place node).Unlinked := by
  intro asked target found
  by_cases root : asked = []
  · simp [root] at found
  · have stands : (tree.set place node).get? asked =
        if place = asked then some node else tree.get? asked := by
      simp [get?, root, Tree.set, find?_put]
    rw [stands] at found
    split at found
    · cases found
      exact plain target rfl
    · exact unlinked asked target found

/-- Taking away makes no links. -/
theorem Unlinked.erase {place : Place} (unlinked : tree.Unlinked) :
    (tree.erase place).Unlinked := by
  intro asked target found
  by_cases root : asked = []
  · simp [root] at found
  · rw [get?_erase tree place asked root] at found
    split at found
    · cases found
    · exact unlinked asked target found

/-! ## Making directories -/

/-- Making a directory makes no links. -/
theorem Unlinked.makeDirectory (unlinked : tree.Unlinked)
    (made : tree.makeDirectory path = .ok after) : after.Unlinked := by
  obtain ⟨spot, -, -, rfl⟩ := makeDirectory_eq_ok_iff.1 made
  exact unlinked.set (by simp)

/-- Making sure of directories makes no links. -/
theorem Unlinked.ensureAlong {anchor : Anchor} {reversed : List String} (unlinked : tree.Unlinked)
    (made : tree.ensureAlong anchor reversed = .ok after) : after.Unlinked :=
  keeps_of_ensureAlong Unlinked (fun _ _ _ made unlinked => unlinked.makeDirectory made) made
    unlinked

/-- Making directories makes no links. -/
theorem Unlinked.makeDirectories (unlinked : tree.Unlinked)
    (made : tree.makeDirectories path = .ok after) : after.Unlinked :=
  unlinked.ensureAlong made

/-- What stands at a place still stands there after directories were made along any path. -/
theorem Stands.makeDirectories {other : Path} {node : Node} (stands : tree.Stands path (some node))
    (made : tree.makeDirectories other = .ok after) : after.Stands path (some node) := by
  refine keeps_of_makeDirectories (·.Stands path (some node)) (fun other tree after made stands => ?_)
    made stands
  obtain ⟨spot, located, absent, rfl⟩ := makeDirectory_eq_ok_iff.1 made
  rw [node_of_locate located] at absent
  refine stands.set (fun here => ?_) (by simp [absent])
  have found := stands.found
  rw [← here, absent] at found
  cases found

/-- Making sure of a directory leaves directories all along to it, and all else as it is. -/
theorem get?_ensureDirectory (unlinked : tree.Unlinked) (level : Level path.names)
    (made : tree.ensureDirectory path = .ok after) :
    tree.Enterable path.names.dropLast ∧ ∀ place,
      after.get? place = if place = path.names then some .directory else tree.get? place := by
  unfold ensureDirectory at made
  split at made
  · rename_i fresh
    cases made
    obtain ⟨stands, rfl⟩ := (makeDirectory_eq_ok_iff_stands unlinked level).1 fresh
    have inner : path.names ≠ [] := by
      intro root
      have found := stands.found
      simp [root] at found
    refine ⟨stands.above, fun place => ?_⟩
    rw [get?_set tree path.names place .directory inner]
    simp only [eq_comm]
  · split at made
    · rename_i there
      cases made
      have stands := (node_eq_ok_iff_stands unlinked level).1 (isDirectory_eq_true_iff.1 there)
      refine ⟨stands.above, fun place => ?_⟩
      split
      · rename_i here
        rw [here, stands.found]
      · rfl
    · cases made
    · cases made

/-- Directories can be entered all along names after they were made along these. -/
theorem get?_ensureAlong {anchor : Anchor} {reversed : List String} (unlinked : tree.Unlinked)
    (level : Level reversed) (made : tree.ensureAlong anchor reversed = .ok after) (place : Place) :
    after.get? place =
      if place <+: reversed.reverse then some .directory else tree.get? place := by
  induction reversed generalizing after place with
  | nil =>
    rw [(get?_ensureDirectory unlinked (by simp [Level]) made).2 place]
    simp
  | cons name above ih =>
    have levelHere : Level (name :: above).reverse := fun other member =>
      level other (List.mem_reverse.1 member)
    have levelAbove : Level above := (level_cons.1 level).2
    rw [ensureAlong] at made
    simp only [List.reverse_cons, List.prefix_concat_iff]
    split at made
    · obtain ⟨middle, first, last⟩ := Runs.bind_eq_ok.1 made
      have opened := ih levelAbove first
      rw [(get?_ensureDirectory (unlinked.ensureAlong first) levelHere last).2 place, opened]
      simp only [List.reverse_cons]
      split <;> simp_all
    · obtain ⟨enterable, stands⟩ := get?_ensureDirectory unlinked levelHere made
      rw [stands place]
      simp only [List.reverse_cons, List.dropLast_concat] at enterable ⊢
      by_cases here : place = above.reverse ++ [name]
      · simp [here]
      · by_cases under : place <+: above.reverse
        · simp [here, under, enterable place under]
        · simp [here, under]

/-- After directories were made along a path they stand there, and all else is as it was. -/
theorem get?_makeDirectories (unlinked : tree.Unlinked) (level : Level path.names)
    (made : tree.makeDirectories path = .ok after) (place : Place) :
    after.get? place = if place <+: path.names then some .directory else tree.get? place := by
  have opened := get?_ensureAlong unlinked
    (fun name member => level name (List.mem_reverse.1 member)) made place
  rwa [List.reverse_reverse] at opened

/-- A walk down through directories and through nothing ends, or something is missing. -/
theorem walk_or_missing {through : Bool} {links : Nat} {here : Place} {names : List String}
    (steps : ∀ name ∈ names, IsStep name)
    (clear : ∀ front, front <+: names →
      tree.get? (here ++ front) = none ∨ tree.get? (here ++ front) = some .directory) :
    (∃ spot, tree.walk through links here names = .ok spot) ∨
      tree.walk through links here names = .error .missing := by
  induction names generalizing here with
  | nil => exact .inl ⟨_, by rw [walk]⟩
  | cons name rest ih =>
    obtain ⟨step, steps⟩ := List.forall_mem_cons.1 steps
    rw [walk, if_neg step.notHere, if_neg step.notUp, if_neg (Nat.not_lt.2 step.short)]
    rcases clear [name] (by simp) with absent | directory
    · rw [absent]
      by_cases atEnd : rest = []
      · simp [atEnd]
      · simp [atEnd]
    · rw [directory]
      refine ih steps fun front above => ?_
      have clear := clear (name :: front) (by simpa using above)
      rwa [List.append_cons] at clear

/-- A path that fits is located, or something is missing, if nothing but directories is on it. -/
theorem locate_or_missing (through : Bool) (fits : path.Fits)
    (clear : ∀ front, front <+: path.names →
      tree.get? front = none ∨ tree.get? front = some .directory) :
    (∃ spot, tree.locate through path = .ok spot) ∨
      tree.locate through path = .error .missing := by
  rw [locate, if_neg (Bool.eq_false_iff.1 fits.noNul), if_neg (Nat.not_lt.2 fits.short)]
  exact walk_or_missing fits.steps clear

/-- A directory can be made where nothing stands, and it is no fault if it is there. -/
theorem exists_ensureDirectory {node : Option Node} (unlinked : tree.Unlinked)
    (level : Level path.names) (stands : tree.Stands path node)
    (clear : node = none ∨ node = some .directory) :
    ∃ after, tree.ensureDirectory path = .ok after := by
  unfold ensureDirectory
  rcases clear with rfl | rfl
  · rw [(makeDirectory_eq_ok_iff_stands unlinked level).2 ⟨stands, rfl⟩]
    exact ⟨_, rfl⟩
  · have there := isDirectory_eq_true_iff.2 ((node_eq_ok_iff_stands unlinked level).2 stands)
    cases tree.makeDirectory path with
    | ok after => exact ⟨after, rfl⟩
    | error fault => exact ⟨tree, by rw [there]⟩

/-- Directories can be made along a path that fits, where nothing else stands on the way. -/
theorem exists_ensureAlong {reversed : List String} (unlinked : tree.Unlinked)
    (level : Level reversed) (fits : (Path.ofNames reversed.reverse).Fits)
    (clear : ∀ front, front <+: reversed.reverse →
      tree.get? front = none ∨ tree.get? front = some .directory) :
    ∃ after, tree.ensureAlong .root reversed = .ok after := by
  induction reversed with
  | nil =>
    refine exists_ensureDirectory unlinked (by simp [Level]) ⟨fits, ?_, ?_⟩ (.inr rfl)
    · exact tree.enterable_nil
    · exact tree.get?_nil
  | cons name above ih =>
    have levelHere : Level (Path.ofNames (name :: above).reverse).names := fun other member =>
      level other (List.mem_reverse.1 member)
    have shorter : above.reverse <+: (name :: above).reverse := by simp
    rw [ensureAlong, ← Path.ofNames]
    by_cases missing : tree.makeDirectory (.ofNames (name :: above).reverse) = .error .missing
    · have levelAbove := (level_cons.1 level).2
      obtain ⟨middle, first⟩ := ih levelAbove (fits.mono shorter) fun front under =>
        clear front (under.trans shorter)
      have opened := get?_ensureAlong unlinked levelAbove first
      have stands : middle.Stands (.ofNames (name :: above).reverse)
          (tree.get? (name :: above).reverse) := by
        refine ⟨fits, fun front under => ?_, ?_⟩
        · rw [opened, if_pos (by simpa [Path.ofNames] using under)]
        · rw [Path.ofNames, opened, if_neg]
          intro under
          have lengths := under.length_le
          simp only [List.length_reverse, List.length_cons] at lengths
          omega
      obtain ⟨after, last⟩ := exists_ensureDirectory (unlinked.ensureAlong first) levelHere stands
        (clear _ (List.prefix_refl _))
      exact ⟨after, by simp only [missing, first]; exact last⟩
    · rcases locate_or_missing false fits clear with ⟨spot, located⟩ | absent
      · obtain ⟨-, stands⟩ := (locate_eq_ok_iff_stands unlinked levelHere).1 located
        have kind := clear _ (List.prefix_refl _)
        rw [show tree.get? (name :: above).reverse = spot.node from stands.found] at kind
        obtain ⟨after, made⟩ := exists_ensureDirectory unlinked levelHere stands kind
        refine ⟨after, ?_⟩
        split
        · rename_i absent
          exact absurd absent missing
        · exact made
      · exact absurd (by rw [makeDirectory, absent]) missing

/-- Directories can be made along a path that fits, where nothing else stands on the way. -/
theorem exists_makeDirectories {names : List String} (unlinked : tree.Unlinked)
    (level : Level names) (fits : (Path.ofNames names).Fits)
    (clear : ∀ front, front <+: names →
      tree.get? front = none ∨ tree.get? front = some .directory) :
    ∃ after, tree.makeDirectories (.ofNames names) = .ok after :=
  exists_ensureAlong unlinked (fun name member => level name (List.mem_reverse.1 member))
    (by simpa [Path.ofNames] using fits) (by simpa [Path.ofNames] using clear)

/-- The root is located. -/
theorem locate_root (tree : Tree) (through : Bool) :
    tree.locate through (.ofNames []) = .ok ⟨[], some .directory⟩ := by
  rw [locate, if_neg (by decide), if_neg (by decide), Path.ofNames, walk, get?_nil]

/-- The root is there without being made. -/
theorem makeDirectories_root (tree : Tree) : tree.makeDirectories (.ofNames []) = .ok tree :=
  makeDirectories_of_locate (tree.locate_root false)

/-- The root resolves to itself. -/
theorem resolveStrict_root (tree : Tree) :
    tree.resolveStrict (.ofNames []) = .ok (.ofNames []) := by
  rw [resolveStrict, resolve, Path.ofNames, List.map_nil, follow]
  rfl

/-! ## Copying -/

/-- A copy goes to the target itself, unless a directory stands there. -/
theorem copyTarget_of_stands {source target : Path} (unlinked : tree.Unlinked)
    (level : Level target.names) (free : tree.get? target.names ≠ some .directory) :
    tree.copyTarget source target = target := by
  unfold copyTarget
  split
  · rename_i there
    have stands := (node_eq_ok_iff_stands unlinked level).1 (isDirectory_eq_true_iff.1 there)
    exact absurd stands.found free
  · rfl

/-- A file is copied to the place of the target, unless a directory stands there. -/
theorem copy_eq_ok {source target : Path} (unlinked : tree.Unlinked)
    (levelSource : Level source.names) (level : Level target.names)
    (free : tree.get? target.names ≠ some .directory)
    (copied : tree.copy source target = .ok after) :
    ∃ content, tree.Stands source (some (.file content)) ∧
      (∃ node, tree.Stands target node) ∧ after = tree.set target.names (.file content) := by
  obtain ⟨-, content, read, stored⟩ := copy_eq_ok_iff.1 copied
  rw [copyTarget_of_stands unlinked level free] at stored
  obtain ⟨node, stands, -, rfl⟩ := (store_eq_ok_iff_stands unlinked level).1 stored
  exact ⟨content, (content_eq_ok_iff_stands unlinked levelSource).1 read, ⟨node, stands⟩, rfl⟩

/-- A file can be copied to another place where no directory stands. -/
theorem copy_of_stands {source target : Path} {content : Bytes} {node : Option Node}
    (unlinked : tree.Unlinked) (levelSource : Level source.names) (level : Level target.names)
    (apart : source.names ≠ target.names) (there : tree.Stands source (some (.file content)))
    (stands : tree.Stands target node) (free : node ≠ some .directory) :
    tree.copy source target = .ok (tree.set target.names (.file content)) := by
  have one : tree.locate true source = .ok ⟨source.names, some (.file content)⟩ :=
    (locate_eq_ok_iff_stands unlinked levelSource).2 ⟨rfl, there⟩
  have other : tree.locate true target = .ok ⟨target.names, node⟩ :=
    (locate_eq_ok_iff_stands unlinked level).2 ⟨rfl, stands⟩
  exact copy_of_locate one other apart free

/-! ## Resolving -/

/-- On the way to what stands at a place are directories that stand there. -/
theorem Stands.directory_above {front names : List String} {node : Option Node}
    (stands : tree.Stands (.ofNames names) node) (above : front <+: names)
    (further : front ≠ names) : tree.Stands (.ofNames front) (some .directory) := by
  have inner : names ≠ [] := by
    rintro rfl
    exact further (List.prefix_nil.1 above)
  have enterable := stands.above.mono ((prefix_dropLast_iff inner).2 ⟨above, further⟩)
  exact ⟨stands.fits.mono above, enterable.dropLast, enterable front (List.prefix_refl front)⟩

/-- The node at a place is the one that the path along its names leads to. -/
theorem nodeAt_eq (place : Place) :
    tree.nodeAt place = match tree.locate false (.ofNames place) with
      | .ok ⟨_, some node⟩ => .ok node
      | .ok ⟨_, none⟩ => .error .missing
      | .error fault => .error fault := by
  rw [nodeAt, locate, show (Path.ofNames place).names = place from rfl]
  split
  · rfl
  · split <;> rfl

/-- What stands at a place is found there. -/
theorem nodeAt_eq_ok_iff_stands {place : Place} {node : Node} (unlinked : tree.Unlinked)
    (level : Level place) :
    tree.nodeAt place = .ok node ↔ tree.Stands (.ofNames place) (some node) := by
  have located {spot : Spot} : tree.locate false (.ofNames place) = .ok spot ↔
      spot.place = place ∧ tree.Stands (.ofNames place) spot.node :=
    locate_eq_ok_iff_stands unlinked level
  rw [nodeAt_eq]
  constructor
  · intro found
    split at found
    · rename_i reached
      cases found
      exact (located.1 reached).2
    · cases found
    · cases found
  · intro stands
    rw [located.2 (show (⟨place, some node⟩ : Spot).place = place ∧ _ from ⟨rfl, stands⟩)]

/-- Nothing is found where nothing stands. -/
theorem nodeAt_of_absent {place : Place} (unlinked : tree.Unlinked) (level : Level place)
    (stands : tree.Stands (.ofNames place) none) : tree.nodeAt place = .error .missing := by
  have located : tree.locate false (.ofNames place) = .ok ⟨place, none⟩ :=
    (locate_eq_ok_iff_stands unlinked level).2 ⟨rfl, stands⟩
  rw [nodeAt_eq, located]

/-- Names that lead down to something are taken as they are. -/
theorem follow_of_stands {strict : Bool} {room : Nat} {fresh : List Place}
    {resolved : List (Place × Place)} (here : Place) {names : List String} {node : Node}
    (unlinked : tree.Unlinked)
    (level : Level (here ++ names)) (stands : tree.Stands (.ofNames (here ++ names)) (some node))
    (turns : List Turn) :
    tree.follow strict room fresh resolved here (names.map .name ++ turns) =
      tree.follow strict room fresh resolved (here ++ names) turns := by
  induction names generalizing here with
  | nil => simp
  | cons name rest ih =>
    rw [List.append_cons] at level stands ⊢
    obtain ⟨notHere, notUp⟩ := level name (by simp)
    have levelNext := (level_append.1 level).1
    have found : ∃ next, tree.nodeAt (here ++ [name]) = .ok next := by
      simp only [nodeAt_eq_ok_iff_stands unlinked levelNext]
      by_cases atEnd : rest = []
      · subst atEnd
        rw [List.append_nil] at stands
        exact ⟨node, stands⟩
      · exact ⟨.directory, stands.directory_above (List.prefix_append _ rest) (by simpa using atEnd)⟩
    obtain ⟨next, found⟩ := found
    rw [List.map_cons, List.cons_append, follow_of_unlinked notHere notUp found]
    · exact ih _ level stands
    · rintro target rfl
      exact unlinked _ _ ((nodeAt_eq_ok_iff_stands unlinked levelNext).1 found).found

/-- A path from the root that goes down to something resolves to itself. -/
theorem resolve_of_stands {strict : Bool} {names : List String} {node : Node}
    (unlinked : tree.Unlinked) (level : Level names)
    (stands : tree.Stands (.ofNames names) (some node)) :
    tree.resolve strict (.ofNames names) = .ok (.ofNames names) := by
  have followed : tree.follow strict deepestLinks tree.links [] [] (names.map .name ++ []) =
      tree.follow strict deepestLinks tree.links [] ([] ++ names) [] :=
    follow_of_stands [] unlinked level stands []
  rw [List.append_nil, follow] at followed
  rw [resolve, show (Path.ofNames names).names = names from rfl, followed]
  rfl

/-- A path to something that stands there resolves to itself. -/
theorem resolveStrict_of_stands {names : List String} {node : Node} (unlinked : tree.Unlinked)
    (level : Level names) (stands : tree.Stands (.ofNames names) (some node)) :
    tree.resolveStrict (.ofNames names) = .ok (.ofNames names) :=
  resolve_of_stands unlinked level stands

/-- A path to something that stands there is settled as itself. -/
theorem resolveLenient_of_stands {names : List String} {node : Node} (unlinked : tree.Unlinked)
    (level : Level names) (stands : tree.Stands (.ofNames names) (some node)) :
    tree.resolveLenient (.ofNames names) = .ok (.ofNames names) := by
  have located : tree.locate true (.ofNames names) = .ok ⟨names, some node⟩ :=
    (locate_eq_ok_iff_stands unlinked level).2 ⟨rfl, stands⟩
  rw [resolveLenient, resolve_of_stands unlinked level stands]
  simp only [bind, Except.bind, located]
  rfl

/-- A path from the root that goes down to nothing does not resolve. -/
theorem resolveIfThere_of_absent {names : List String} {name : String} (unlinked : tree.Unlinked)
    (level : Level (names ++ [name])) (stands : tree.Stands (.ofNames (names ++ [name])) none) :
    tree.resolveIfThere (.ofNames (names ++ [name])) = .ok none := by
  have enterable : tree.Enterable names := by
    have above := stands.above
    rwa [show (Path.ofNames (names ++ [name])).names = names ++ [name] from rfl,
      List.dropLast_concat] at above
  have way : tree.Stands (.ofNames names) (some .directory) :=
    ⟨stands.fits.mono (List.prefix_append names [name]), enterable.dropLast,
      enterable names (List.prefix_refl names)⟩
  have followed :
      tree.follow true deepestLinks tree.links [] [] (names.map .name ++ [.name name]) =
        tree.follow true deepestLinks tree.links [] ([] ++ names) [.name name] :=
    follow_of_stands [] unlinked (level_append.1 level).1 way [.name name]
  obtain ⟨notHere, notUp⟩ := level name (by simp)
  have failed : tree.resolveStrict (.ofNames (names ++ [name])) = .error .missing := by
    rw [resolveStrict, resolve, show (Path.ofNames (names ++ [name])).names = names ++ [name] from rfl,
      List.map_append, List.map_singleton, followed, List.nil_append, follow, if_neg notHere,
      if_neg notUp]
    simp only [nodeAt_of_absent unlinked level stands]
    rfl
  rw [resolveIfThere, failed]
  rfl

/-- A resolution goes to a place that names lead down to. -/
theorem level_of_follow {strict : Bool} {room : Nat} {fresh : List Place}
    {resolved : List (Place × Place)} {here place : Place} {turns : List Turn}
    (unlinked : tree.Unlinked) (level : Level here)
    (followed : tree.follow strict room fresh resolved here turns = .ok place) : Level place := by
  have noLink {next : Place} {target : String} (levelNext : Level next) :
      tree.nodeAt next ≠ .ok (.link target) := fun found =>
    unlinked _ _ ((nodeAt_eq_ok_iff_stands unlinked levelNext).1 found).found
  have deeper {here : Place} {name : String} (level : Level here) (notHere : name ≠ ".")
      (notUp : name ≠ "..") : Level (here ++ [name]) :=
    level_concat.2 ⟨level, notHere, notUp⟩
  fun_induction follow tree strict room fresh resolved here turns with
  | case1 =>
    cases followed
    exact level
  | case2 _ _ _ _ _ _ ih => exact ih level followed
  | case3 _ _ _ _ _ ih => exact ih level followed
  | case4 _ _ _ _ _ _ ih =>
    exact ih (fun name member => level name (List.dropLast_subset _ member)) followed
  | case5 => cases followed
  | case6 _ _ _ _ _ _ notHere notUp _ _ _ _ ih => exact ih (deeper level notHere notUp) followed
  | case8 | case10 => cases followed
  | case7 _ _ _ _ _ _ notHere notUp _ _ found | case9 _ _ _ _ _ notHere notUp _ _ found
  | case11 _ _ _ _ _ _ notHere notUp _ _ found =>
    exact absurd found (noLink (deeper level notHere notUp))
  | case12 _ _ _ _ _ _ notHere notUp _ _ _ _ ih => exact ih (deeper level notHere notUp) followed

/-- A lenient resolution tells the place that the names of the path are followed to. -/
theorem follow_of_resolveLenient {resolved : Path} (found : tree.resolveLenient path = .ok resolved) :
    ∃ place, tree.follow false deepestLinks tree.links [] [] (path.names.map .name) = .ok place ∧
      resolved = .ofNames place := by
  obtain ⟨followed, first, later⟩ := Runs.bind_eq_ok.1 found
  obtain ⟨place, led, rfl⟩ := Runs.map_eq_ok.1 first
  refine ⟨place, led, ?_⟩
  split at later
  · cases later
  · cases later
  · cases later
    rfl

end Tree

/-- The directory of the fixtures is told by names that lead down to it. -/
theorem Config.level_codeDir {config : Config} {tree : Tree} {codeDir : Path}
    (unlinked : tree.Unlinked) (coded : config.codeDir tree = .ok codeDir) :
    ∃ names, codeDir = .ofNames names ∧ Tree.Level names := by
  obtain ⟨names, followed, same⟩ := Tree.follow_of_resolveLenient coded
  exact ⟨names, same, Tree.level_of_follow unlinked (by simp [Tree.Level]) followed⟩

end LintBench
