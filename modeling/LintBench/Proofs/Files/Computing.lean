import LintBench.Proofs.Files.Unlinked

/-!
# Computing in trees without links

Where there are no links, a walk and a resolution go on by the names alone. Both
are given here by recursion on these, so that what becomes of a path in a given
tree can be computed.
-/

namespace LintBench.Tree

variable {tree : Tree}

/-- Walk from a directory along names, where no link is met. -/
def descend (tree : Tree) (here : Place) : List String → Except FileFault Spot
  | [] => .ok ⟨here, tree.get? here⟩
  | name :: rest =>
    if name = "." then descend tree here rest
    else if name = ".." then descend tree here.dropLast rest
    else if name.utf8ByteSize > longestName then .error .nameTooLong
    else match tree.get? (here ++ [name]) with
      | none => if rest.isEmpty then .ok ⟨here ++ [name], none⟩ else .error .missing
      | some .directory => descend tree (here ++ [name]) rest
      | some node =>
        if rest.isEmpty then .ok ⟨here ++ [name], some node⟩ else .error .notDirectory

/-- In a tree without links a walk goes down name by name. -/
theorem walk_eq_descend (unlinked : tree.Unlinked) (through : Bool) (links : Nat) (here : Place)
    (names : List String) : tree.walk through links here names = tree.descend here names := by
  induction names generalizing here with
  | nil => rw [walk, descend]
  | cons name rest ih =>
    rw [walk, descend, ih, ih, ih]
    cases found : tree.get? (here ++ [name]) with
    | none => rfl
    | some node =>
      cases node with
      | file content => rfl
      | directory => rfl
      | link target => exact absurd found (unlinked _ _)

/-- Walk along a path from the root, where no link is met. -/
def locateDown (tree : Tree) (path : Path) : Except FileFault Spot :=
  if path.names.any holdsNul then .error .nulInName
  else if path.toString.utf8ByteSize > longestPath then .error .nameTooLong
  else tree.descend [] path.names

/-- In a tree without links a path is located by going down. -/
theorem locate_eq_locateDown (unlinked : tree.Unlinked) (through : Bool) (path : Path) :
    tree.locate through path = tree.locateDown path := by
  rw [locate, walk_eq_descend unlinked, locateDown]

/-- The node at a place that was reached by names alone, where no link is met. -/
def nodeDown (tree : Tree) (place : Place) : Except FileFault Node :=
  match tree.locateDown (.ofNames place) with
  | .ok ⟨_, some node⟩ => .ok node
  | .ok ⟨_, none⟩ => .error .missing
  | .error fault => .error fault

/-- In a tree without links what stands at a place is found by going down. -/
theorem nodeAt_eq_nodeDown (unlinked : tree.Unlinked) (place : Place) :
    tree.nodeAt place = tree.nodeDown place := by
  rw [nodeAt_eq, locate_eq_locateDown unlinked]
  rfl

/-- Resolve names from a place, where no link is met. -/
def settleDown (tree : Tree) (strict : Bool) (here : Place) :
    List String → Except FileFault Place
  | [] => .ok here
  | name :: rest =>
    if name = "." then settleDown tree strict here rest
    else if name = ".." then settleDown tree strict here.dropLast rest
    else match tree.nodeDown (here ++ [name]) with
      | .error fault =>
        if strict || !fault.ofTree then .error fault
        else settleDown tree strict (here ++ [name]) rest
      | .ok _ => settleDown tree strict (here ++ [name]) rest

/-- In a tree without links names are followed by going down. -/
theorem follow_eq_settleDown (unlinked : tree.Unlinked) (strict : Bool) (room : Nat)
    (fresh : List Place) (resolved : List (Place × Place)) (here : Place) (names : List String) :
    tree.follow strict room fresh resolved here (names.map .name) =
      tree.settleDown strict here names := by
  induction names generalizing here with
  | nil => rw [List.map_nil, follow, settleDown]
  | cons name rest ih =>
    rw [List.map_cons, follow, settleDown, ih, ih]
    simp only [nodeAt_eq_nodeDown unlinked]
    cases found : tree.nodeDown (here ++ [name]) with
    | error fault => simp only [ih]
    | ok node =>
      cases node with
      | file content => simp only [ih]
      | directory => simp only [ih]
      | link target =>
        rw [← nodeAt_eq_nodeDown unlinked, nodeAt_eq] at found
        split at found
        · rename_i reached located
          cases found
          exact absurd (node_of_locate located).symm (unlinked _ _)
        · cases found
        · cases found

/-- In a tree without links a path is resolved by going down. -/
theorem resolve_eq_settleDown (unlinked : tree.Unlinked) (strict : Bool) (path : Path) :
    tree.resolve strict path =
      (tree.settleDown strict [] path.names).map Path.ofNames := by
  rw [resolve, follow_eq_settleDown unlinked]

/-- In a tree without links a reported path is normalized by going down. -/
theorem resolveReported_eq_settleDown (unlinked : tree.Unlinked) (base : Path) (text : String) :
    tree.resolveReported base (.ofString text) =
      match tree.settleDown true [] (base / Path.ofString text).names with
      | .ok place => .ok (some (.ofNames place))
      | .error fault => if fault.ofTree then .ok none else .error fault := by
  rw [resolveReported, LooseText.toString?_ofString]
  simp only [resolveIfThere, resolveStrict, resolve_eq_settleDown unlinked]
  cases tree.settleDown true [] (base / Path.ofString text).names <;> rfl

/-- Going down gives what a path resolves to. -/
theorem resolveStrict_of_settleDown {path : Path} {place : Place} (unlinked : tree.Unlinked)
    (settled : tree.settleDown true [] path.names = .ok place) :
    tree.resolveStrict path = .ok (.ofNames place) := by
  rw [resolveStrict, resolve_eq_settleDown unlinked, settled]
  rfl

/-- Going down to a file gives its content. -/
theorem content_of_locateDown {path : Path} {content : Text.Bytes} (unlinked : tree.Unlinked)
    (place : Place) (located : tree.locateDown path = .ok ⟨place, some (.file content)⟩) :
    tree.content path = .ok content :=
  content_eq_ok_iff.2
    (node_eq_ok_iff.2 ⟨_, (locate_eq_locateDown unlinked true path).trans located, rfl⟩)

/-- Directories that are found by going down need not be made. -/
theorem makeDirectories_of_locateDown {path : Path} (unlinked : tree.Unlinked) (place : Place)
    (located : tree.locateDown path = .ok ⟨place, some .directory⟩) :
    tree.makeDirectories path = .ok tree :=
  makeDirectories_of_locate ((locate_eq_locateDown unlinked false path).trans located)

/-- Going down to a file and to where no directory stands lets the file be copied. -/
theorem copy_of_locateDown {source target : Path} {content : Text.Bytes} (unlinked : tree.Unlinked)
    (here place : Place) (node : Option Node)
    (one : tree.locateDown source = .ok ⟨here, some (.file content)⟩)
    (other : tree.locateDown target = .ok ⟨place, node⟩) (apart : here ≠ place)
    (free : node ≠ some .directory) :
    tree.copy source target = .ok (tree.set place (.file content)) :=
  copy_of_locate ((locate_eq_locateDown unlinked true source).trans one)
    ((locate_eq_locateDown unlinked true target).trans other) apart free

end LintBench.Tree
