import LintBench.Text.Split

/-!
# Paths

A path is its anchor and the names on the way. Empty names and single dots are
dropped when a path is read; two dots stay, since what they mean depends on the
links of a file tree. Exactly two leading slashes are an anchor of their own.
-/

namespace LintBench

/-- Where a path starts. -/
inductive Anchor where
  /-- At a directory that the reader supplies. -/
  | relative
  /-- At the root of the file tree. -/
  | root
  /-- At the root, written with two slashes. -/
  | doubleRoot
deriving DecidableEq, Repr, Inhabited

/-- The slashes of an anchor. -/
def Anchor.text : Anchor → String
  | .relative => ""
  | .root => "/"
  | .doubleRoot => "//"

/-- An anchor and the names that follow it. -/
structure Path where
  /-- Where the path starts. -/
  anchor : Anchor := .relative
  /-- The names on the way, none of them empty or a single dot. -/
  names : List String := []
deriving DecidableEq, Repr, Inhabited

namespace Path

/-- The anchor that a path's text starts with. -/
def anchorOf : List Char → Anchor
  | '/' :: '/' :: '/' :: _ => .root
  | '/' :: '/' :: _ => .doubleRoot
  | '/' :: _ => .root
  | _ => .relative

/-- Whether a piece between slashes names something. -/
def isName (piece : String) : Bool := piece ≠ "" && piece ≠ "."

/-- Read a path. -/
def ofString (text : String) : Path :=
  { anchor := anchorOf text.toList, names := (Text.pieces '/' text).filter isName }

/-- The text of a path; the empty relative path is a single dot. -/
def toString (path : Path) : String :=
  if path.anchor = .relative ∧ path.names = [] then "."
  else path.anchor.text ++ "/".intercalate path.names

instance : ToString Path := ⟨toString⟩

/-- Whether the path says where it starts. -/
def isAbsolute (path : Path) : Bool := path.anchor ≠ .relative

/-- Follow one path from the end of another; an absolute path starts over. -/
def join (base next : Path) : Path :=
  if next.isAbsolute then next else { base with names := base.names ++ next.names }

instance : Div Path := ⟨join⟩

/-- The path from the root along the given names. -/
def ofNames (names : List String) : Path := { anchor := .root, names }

/-- The last name on the way, or nothing. -/
def name (path : Path) : String := path.names.getLast?.getD ""

/-- The path without its last name. -/
def parent (path : Path) : Path := { path with names := path.names.dropLast }

/-- The place of the last dot of a name, if it parts a stem from an ending: it is neither the
first nor the last character. -/
def splitEnding (name : List Char) : Option (List Char × List Char) :=
  let ending := (name.reverse.takeWhile (· ≠ '.')).reverse
  let stem := name.take (name.length - ending.length - 1)
  if ending.length < name.length ∧ ending ≠ [] ∧ stem ≠ [] then some (stem, '.' :: ending) else none

/-- The last name without its ending. -/
def stem (path : Path) : String :=
  match splitEnding path.name.toList with
  | some (stem, _) => String.ofList stem
  | none => path.name

/-- The ending of the last name with its dot, or nothing. -/
def ending (path : Path) : String :=
  match splitEnding path.name.toList with
  | some (_, ending) => String.ofList ending
  | none => ""

/-- The path with its last name replaced, if it has one. -/
def withName? (path : Path) (name : String) : Option Path :=
  if path.names = [] then none else some { path with names := path.names.dropLast ++ [name] }

/-- The names from one directory to another: up from the first as far as needed, then down. -/
def relativeNames : List String → List String → List String
  | base :: bases, target :: targets =>
    if base = target then relativeNames bases targets
    else List.replicate (bases.length + 1) ".." ++ target :: targets
  | bases, targets => List.replicate bases.length ".." ++ targets

end Path

end LintBench
