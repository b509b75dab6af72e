import LintBench.Files.Path
import LintBench.Text.Utf8

/-!
# File trees

A file tree gives each place, which is the row of names from the root, the node
that stands there. A path is walked to a place name by name: two dots go up, and
links are followed. The root is a directory without being listed.
-/

namespace LintBench

open Text (Bytes)

/-- What stands at a place of a file tree. -/
inductive Node where
  /-- A file with its content. -/
  | file (content : Bytes)
  /-- A link to where a path leads. -/
  | link (target : String)
  /-- A directory. -/
  | directory
deriving DecidableEq, Repr, Inhabited

/-- The names from the root to a node. -/
abbrev Place := List String

/-- Why an operation on a file tree fails. -/
inductive FileFault where
  /-- Nothing stands at the place. -/
  | missing
  /-- Something stands where a new node was to go. -/
  | occupied
  /-- The way leads through what is no directory. -/
  | notDirectory
  /-- A directory stands where a file was asked for. -/
  | isDirectory
  /-- A directory that was to be removed has something in it. -/
  | notEmpty
  /-- A name is longer than a name may be, or the whole path is. -/
  | nameTooLong
  /-- The way leads through more links than are followed. -/
  | tooManyLinks
  /-- A file was to be copied onto itself. -/
  | sameFile
  /-- A name holds the character that ends names. -/
  | nulInName
  /-- A name holds what no name can. -/
  | unencodable
  /-- The way leads through a link that leads through itself. -/
  | endlessLink
  /-- The way leads through links that lead through links too deep. -/
  | linksTooDeep
deriving DecidableEq, Repr

/-- Whether a fault comes from the tree: from what does or does not stand in it. The others are
faults of the path as such. -/
def FileFault.ofTree : FileFault → Bool
  | .nulInName | .unencodable | .endlessLink | .linksTooDeep => false
  | _ => true

/-- The nodes of a file tree by their places. -/
structure Tree where
  /-- The nodes other than the root, each with its place. -/
  nodes : List (Place × Node) := []
deriving DecidableEq, Repr, Inhabited

namespace Tree

/-- The node of a place in a list. -/
def find? : List (Place × Node) → Place → Option Node
  | [], _ => none
  | (place, node) :: rest, asked => if place = asked then some node else find? rest asked

/-- The node at a place. -/
def get? (tree : Tree) (place : Place) : Option Node :=
  if place = [] then some .directory else find? tree.nodes place

/-- A list of nodes with one of them replaced, or added at the end. -/
def put : List (Place × Node) → Place → Node → List (Place × Node)
  | [], place, node => [(place, node)]
  | (first, present) :: rest, place, node =>
    if first = place then (place, node) :: rest else (first, present) :: put rest place node

/-- Let a node stand at a place. -/
def set (tree : Tree) (place : Place) (node : Node) : Tree := { nodes := put tree.nodes place node }

/-- Take away what stands at a place, with everything below it. -/
def erase (tree : Tree) (place : Place) : Tree :=
  { nodes := tree.nodes.filter fun entry => !place.isPrefixOf entry.1 }

/-- The names in a directory. -/
def children (tree : Tree) (place : Place) : List String :=
  tree.nodes.filterMap fun (other, _) => if other.dropLast = place then other.getLast? else none

/-- What stands at a place after something is put at a place. -/
theorem find?_put (nodes : List (Place × Node)) (place asked : Place) (node : Node) :
    find? (put nodes place node) asked =
      if place = asked then some node else find? nodes asked := by
  induction nodes with
  | nil => simp [put, find?]
  | cons head rest ih =>
    obtain ⟨first, present⟩ := head
    grind [put, find?]

/-- A place that was set holds what it was given; the others are as they were. -/
theorem get?_set (tree : Tree) (place asked : Place) (node : Node) (inner : place ≠ []) :
    get? (set tree place node) asked = if place = asked then some node else get? tree asked := by
  by_cases root : asked = []
  · simp [get?, root, inner]
  · simp [get?, root, set, find?_put]

/-- What stands at a place of those that are kept. -/
theorem find?_filter (nodes : List (Place × Node)) (keep : Place → Bool) (asked : Place) :
    find? (nodes.filter fun entry => keep entry.1) asked =
      if keep asked then find? nodes asked else none := by
  induction nodes with
  | nil => simp [find?]
  | cons head rest ih =>
    obtain ⟨first, present⟩ := head
    grind [find?]

/-- An erased place and those below it hold nothing; the others are as they were. -/
theorem get?_erase (tree : Tree) (place asked : Place) (inner : asked ≠ []) :
    get? (erase tree place) asked = if place.isPrefixOf asked then none else get? tree asked := by
  have kept := find?_filter tree.nodes (fun other => !place.isPrefixOf other) asked
  simp only [get?, erase, inner, if_false, kept]
  cases place.isPrefixOf asked <;> simp

/-! ## Walking -/

/-- How long a name may be, in bytes. -/
def longestName : Nat := 255

/-- How long the text of a path may be, in bytes. -/
def longestPath : Nat := 4095

/-- How many links a walk follows. -/
def mostLinks : Nat := 40

/-- The steps that a link's target asks for. A slash at the end asks for a directory, as does a
single dot. -/
def linkSteps (target : String) : List String :=
  let pieces := Text.pieces '/' target
  (pieces.filter (· ≠ "")) ++ (if pieces.getLast? = some "" then ["."] else [])

/-- Where the steps of a link at `here` start. -/
def linkStart (target : String) (here : Place) : Place :=
  if target.toList.head? = some '/' then [] else here

/-- Where a walk ends, and what stands there. -/
structure Spot where
  /-- The place, with no link on the way. -/
  place : Place
  /-- The node at the place, if there is one. -/
  node : Option Node
deriving DecidableEq, Repr, Inhabited

/-- Walk from a directory along names. The last name need not lead to anything; `through` says
whether a link there is followed. -/
def walk (tree : Tree) (through : Bool) (links : Nat) (here : Place) :
    List String → Except FileFault Spot
  | [] => .ok ⟨here, tree.get? here⟩
  | name :: rest =>
    if name = "." then walk tree through links here rest
    else if name = ".." then walk tree through links here.dropLast rest
    else if name.utf8ByteSize > longestName then .error .nameTooLong
    else match tree.get? (here ++ [name]) with
      | none => if rest.isEmpty then .ok ⟨here ++ [name], none⟩ else .error .missing
      | some .directory => walk tree through links (here ++ [name]) rest
      | some (.file content) =>
        if rest.isEmpty then .ok ⟨here ++ [name], some (.file content)⟩ else .error .notDirectory
      | some (.link target) =>
        if rest.isEmpty && !through then .ok ⟨here ++ [name], some (.link target)⟩
        else match links with
          | 0 => .error .tooManyLinks
          | links + 1 =>
            walk tree through links (linkStart target here) (linkSteps target ++ rest)
termination_by names => (links, names.length)

/-- Whether a name holds the character that ends names. -/
def holdsNul (name : String) : Bool := name.toList.contains '\x00'

/-- Walk along a path from the root. -/
def locate (tree : Tree) (through : Bool) (path : Path) : Except FileFault Spot :=
  if path.names.any holdsNul then .error .nulInName
  else if path.toString.utf8ByteSize > longestPath then .error .nameTooLong
  else tree.walk through mostLinks [] path.names

end Tree

end LintBench
