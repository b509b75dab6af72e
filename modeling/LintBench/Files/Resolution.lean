import LintBench.Files.Access

/-!
# Resolving paths

The resolved form of a path goes from the root and leads through no links. Two
dots take back the step before them, whatever stands there; a link is replaced
by where it leads. A strict resolution needs every step to be there, a lenient
one goes on by name where nothing is found. A lenient one also gives up at a link
that leads through itself: from there on the path is taken as it is written, and
it is a fault only if it still leads into the link. A strict one looks up what such a
link leads to, and the fault is the one of that.
-/

namespace LintBench

namespace Tree

/-- A step of a resolution. -/
inductive Turn where
  /-- Take a name. -/
  | name (name : String)
  /-- The steps of the link at a place have been taken. -/
  | close (link : Place)
deriving DecidableEq, Repr

/-- The places of the links of a tree. -/
def links (tree : Tree) : List Place :=
  tree.nodes.filterMap fun (place, node) => match node with
    | .link _ => some place
    | _ => none

/-- The node at a place that was reached by names alone. -/
def nodeAt (tree : Tree) (place : Place) : Except FileFault Node :=
  if place.any holdsNul then .error .nulInName
  else if (Path.ofNames place).toString.utf8ByteSize > longestPath then .error .nameTooLong
  else match tree.walk false mostLinks [] place with
    | .ok ⟨_, some node⟩ => .ok node
    | .ok ⟨_, none⟩ => .error .missing
    | .error fault => .error fault

/-- The names that are still to be taken. -/
def namesAhead (turns : List Turn) : List String :=
  turns.filterMap fun
    | .name name => some name
    | .close _ => none

/-- The place that names lead to if two dots take back the name before them. -/
def settle (names : List String) : Place :=
  names.foldl (fun place name =>
    if name = "." then place else if name = ".." then place.dropLast else place ++ [name]) []

/-- Links without one of them. -/
def without (links : List Place) (link : Place) : List Place := links.filter (· ≠ link)

/-- A row of links without one of its links is shorter. -/
theorem length_without_lt {links : List Place} {link : Place} (listed : link ∈ links) :
    (without links link).length < links.length :=
  List.length_filter_lt_length_iff_exists.2 ⟨link, listed, by simp⟩

/-- How many links can be entered before the first of them is left. -/
def deepestLinks : Nat := 986

/-- The fault of a link that is met inside itself, which is the one of looking up what it leads to.
Nothing is ever found there. -/
def loopFault (tree : Tree) (link : Place) : FileFault :=
  match tree.node (Path.ofNames link) with
  | .error .tooManyLinks | .ok _ => .endlessLink
  | .error fault => fault

/-- Resolve the turns of a path from a place. `room` says how many links can still be entered
without leaving one, `fresh` are the links that have not been entered, and `resolved` says where
those lead that have been left. A strict resolution fails at a link that is met inside itself. -/
def follow (tree : Tree) (strict : Bool) (room : Nat) (fresh : List Place)
    (resolved : List (Place × Place)) (here : Place) : List Turn → Except FileFault Place
  | [] => .ok here
  | .close link :: rest => follow tree strict (room + 1) fresh ((link, here) :: resolved) here rest
  | .name name :: rest =>
    if name = "." then follow tree strict room fresh resolved here rest
    else if name = ".." then follow tree strict room fresh resolved here.dropLast rest
    else
      let next := here ++ [name]
      match tree.nodeAt next with
      | .error fault =>
        if strict || !fault.ofTree then .error fault
        else follow tree strict room fresh resolved next rest
      | .ok (.link target) =>
        match resolved.lookup next with
        | some there => follow tree strict room fresh resolved there rest
        | none =>
          if _entered : next ∈ fresh then
            match room with
            | 0 => .error .linksTooDeep
            | room + 1 =>
              follow tree strict room (without fresh next) resolved (linkStart target here)
                ((linkSteps target).map .name ++ .close next :: rest)
          else if strict then .error (tree.loopFault next)
          else .ok (settle (next ++ namesAhead rest))
      | .ok _ => follow tree strict room fresh resolved next rest
termination_by turns => (fresh.length, turns.length)
decreasing_by
  · exact Prod.Lex.right _ (by simp)
  · exact Prod.Lex.right _ (by simp)
  · exact Prod.Lex.right _ (by simp)
  · exact Prod.Lex.right _ (by simp)
  · exact Prod.Lex.right _ (by simp)
  · exact Prod.Lex.left _ _ (length_without_lt _entered)
  · exact Prod.Lex.right _ (by simp)

/-- Resolve a path from the root. -/
def resolve (tree : Tree) (strict : Bool) (path : Path) : Except FileFault Path :=
  (tree.follow strict deepestLinks tree.links [] [] (path.names.map .name)).map Path.ofNames

/-- The resolved form of a path whose every step is there. -/
def resolveStrict (tree : Tree) (path : Path) : Except FileFault Path := tree.resolve true path

/-- The resolved form of a path as far as it leads, and the rest by name. -/
def resolveLenient (tree : Tree) (path : Path) : Except FileFault Path := do
  let resolved ← tree.resolve false path
  match tree.locate true resolved with
  | .error .tooManyLinks => .error .endlessLink
  | .error .nulInName => .error .nulInName
  | _ => return resolved

/-- The resolved form of a path, or none if the tree does not let it resolve. -/
def resolveIfThere (tree : Tree) (path : Path) : Except FileFault (Option Path) :=
  match tree.resolveStrict path with
  | .ok resolved => .ok (some resolved)
  | .error fault => if fault.ofTree then .ok none else .error fault

/-- The resolved form of a reported path below a directory, or none if the tree does not let it
resolve. A piece of it that is no string names nothing in the tree; one that cannot be a name at
all is a fault if everything before it resolves. -/
def resolveReported (tree : Tree) (base : Path) (reported : LooseText) :
    Except FileFault (Option Path) :=
  match reported.toString? with
  | some path => tree.resolveIfThere (base / Path.ofString path)
  | none => do
    let pieces := Text.splitOn (Text.Letter.char '/') reported.letters
    let isString (piece : List Text.Letter) : Bool := piece.all fun letter => letter.char?.isSome
    let readable := (pieces.takeWhile isString).map fun piece => String.ofList (Text.shownLetters piece)
    let before ← tree.resolveIfThere (base / Path.ofString ("/".intercalate (readable ++ [""])))
    let next := (pieces.drop readable.length).headD []
    if before.isSome && !next.all Text.Letter.isNameable then .error .unencodable else return none

/-- The resolved forms of those paths below a directory that resolve, each once. -/
def resolveListed (tree : Tree) (base : Path) (paths : List String) :
    Except FileFault (List String) := do
  let resolved ← paths.mapM fun path => tree.resolveIfThere (base / Path.ofString path)
  return (resolved.filterMap fun path => path.map Path.toString).eraseDups

end Tree

end LintBench
