import LintBench.Files.Access
import Mathlib.Data.List.Infix
import Mathlib.Tactic.Common

/-!
# Where walks lead

A walk that succeeds has taken a way: row by row the steps that it can take, with
what each of them found. What is known of walks is proved of ways, one kind of
step at a time. In a tree without links a walk along names that go nowhere up
leads to the place of these names, if directories stand all along.
-/

namespace LintBench

namespace Tree

/-- The root is a directory. -/
@[simp] theorem get?_nil (tree : Tree) : tree.get? [] = some .directory := by
  simp [get?]

/-- Whether a walk can end at a last name that leads to a node or to none. -/
def canEnd (through : Bool) : Option Node → Bool
  | none | some (.file _) => true
  | some .directory => false
  | some (.link _) => !through

/-- Whether a name is one that a walk looks up. -/
structure IsStep (name : String) : Prop where
  /-- It does not stay. -/
  notHere : name ≠ "."
  /-- It does not go up. -/
  notUp : name ≠ ".."
  /-- It is no longer than a name may be. -/
  short : name.utf8ByteSize ≤ longestName

instance (name : String) : Decidable (IsStep name) :=
  decidable_of_iff (name ≠ "." ∧ name ≠ ".." ∧ name.utf8ByteSize ≤ longestName)
    ⟨fun ⟨notHere, notUp, short⟩ => ⟨notHere, notUp, short⟩,
      fun ⟨notHere, notUp, short⟩ => ⟨notHere, notUp, short⟩⟩

/-- The way of a walk from a directory along names, with so many links left to follow. -/
inductive Way (tree : Tree) (through : Bool) : Nat → Place → List String → Spot → Prop where
  /-- No name is left. -/
  | done (links : Nat) (here : Place) : Way tree through links here [] ⟨here, tree.get? here⟩
  /-- A dot stays. -/
  | stay {links : Nat} {here : Place} {rest : List String} {spot : Spot}
      (further : Way tree through links here rest spot) :
      Way tree through links here ("." :: rest) spot
  /-- Two dots go up. -/
  | up {links : Nat} {here : Place} {rest : List String} {spot : Spot}
      (further : Way tree through links here.dropLast rest spot) :
      Way tree through links here (".." :: rest) spot
  /-- A name leads to a directory. -/
  | down {links : Nat} {here : Place} {name : String} {rest : List String} {spot : Spot}
      (step : IsStep name) (found : tree.get? (here ++ [name]) = some .directory)
      (further : Way tree through links (here ++ [name]) rest spot) :
      Way tree through links here (name :: rest) spot
  /-- The last name leads to something else, or to nothing. -/
  | last {links : Nat} {here : Place} {name : String} (step : IsStep name)
      (ends : canEnd through (tree.get? (here ++ [name])) = true) :
      Way tree through links here [name] ⟨here ++ [name], tree.get? (here ++ [name])⟩
  /-- A name leads to a link, which is followed. -/
  | jump {links : Nat} {here : Place} {name target : String} {rest : List String} {spot : Spot}
      (step : IsStep name) (found : tree.get? (here ++ [name]) = some (.link target))
      (followed : (rest.isEmpty && !through) = false)
      (further : Way tree through links (linkStart target here) (linkSteps target ++ rest) spot) :
      Way tree through (links + 1) here (name :: rest) spot

variable {tree : Tree} {through : Bool} {links : Nat} {here : Place} {names : List String}
  {spot : Spot}

/-- A walk that succeeds takes a way. -/
theorem way_of_walk (walked : tree.walk through links here names = .ok spot) :
    Way tree through links here names spot := by
  fun_induction walk tree through links here names generalizing spot with
  | case1 links here =>
    cases walked
    exact .done links here
  | case2 links here rest ih => exact .stay (ih walked)
  | case3 links here rest _ ih => exact .up (ih walked)
  | case4 => cases walked
  | case5 links here name rest notHere notUp short absent atEnd =>
    cases walked
    rw [List.isEmpty_iff.1 atEnd, ← absent]
    exact .last ⟨notHere, notUp, by omega⟩ (by rw [absent]; rfl)
  | case6 => cases walked
  | case7 links here name rest notHere notUp short found ih =>
    exact .down ⟨notHere, notUp, by omega⟩ found (ih walked)
  | case8 links here name rest notHere notUp short content found atEnd =>
    cases walked
    rw [List.isEmpty_iff.1 atEnd, ← found]
    exact .last ⟨notHere, notUp, by omega⟩ (by rw [found]; rfl)
  | case9 => cases walked
  | case10 links here name rest notHere notUp short target found atEnd =>
    cases walked
    rw [Bool.and_eq_true, List.isEmpty_iff] at atEnd
    rw [atEnd.1, ← found]
    exact .last ⟨notHere, notUp, by omega⟩ (by rw [found]; exact atEnd.2)
  | case11 => cases walked
  | case12 here name rest notHere notUp short target found followed links ih =>
    exact .jump ⟨notHere, notUp, by omega⟩ found (Bool.eq_false_iff.2 followed) (ih walked)

/-- A walk along a way succeeds. -/
theorem walk_of_way (way : Way tree through links here names spot) :
    tree.walk through links here names = .ok spot := by
  induction way with
  | done => rw [walk]
  | stay further ih => rw [walk, if_pos rfl, ih]
  | up further ih => rw [walk, if_neg (by decide), if_pos rfl, ih]
  | down step found further ih =>
    rw [walk, if_neg step.notHere, if_neg step.notUp, if_neg (Nat.not_lt.2 step.short), found]
    exact ih
  | @last links here name step ends =>
    rw [walk, if_neg step.notHere, if_neg step.notUp, if_neg (Nat.not_lt.2 step.short)]
    cases found : tree.get? (here ++ [name]) with
    | none => rfl
    | some node =>
      cases node with
      | file content => rfl
      | directory => simp [found, canEnd] at ends
      | link target => simp_all [canEnd]
  | jump step found followed further ih =>
    rw [walk, if_neg step.notHere, if_neg step.notUp, if_neg (Nat.not_lt.2 step.short), found]
    simp only [followed]
    exact ih

/-- The ways of a tree are the walks that succeed. -/
theorem walk_eq_ok_iff :
    tree.walk through links here names = .ok spot ↔ Way tree through links here names spot :=
  ⟨way_of_walk, walk_of_way⟩

/-- A walk tells what stands where it ends. -/
theorem Way.node_eq (way : Way tree through links here names spot) :
    spot.node = tree.get? spot.place := by
  induction way with
  | done => rfl
  | stay _ ih => exact ih
  | up _ ih => exact ih
  | down _ _ _ ih => exact ih
  | last => rfl
  | jump _ _ _ _ ih => exact ih

/-! ## Places that can be entered -/

/-- A place on the way to another one is above all that is below that one. -/
theorem ne_append_of_above {front place : Place} {names : List String} (above : front <+: place)
    (inner : names ≠ []) : front ≠ place ++ names := by
  rintro rfl
  have lengths := above.length_le
  rw [List.length_append] at lengths
  exact inner (List.eq_nil_of_length_eq_zero (by omega))

/-- The way to the parent of a place leads to the place, but not all of it. -/
theorem prefix_dropLast_iff {front names : List String} (inner : names ≠ []) :
    front <+: names.dropLast ↔ front <+: names ∧ front ≠ names := by
  obtain ⟨above, last, rfl⟩ : ∃ above last, names = above ++ [last] :=
    ⟨_, _, (List.dropLast_concat_getLast inner).symm⟩
  rw [List.dropLast_concat, List.prefix_concat_iff]
  constructor
  · intro under
    exact ⟨.inr under, ne_append_of_above under (by simp)⟩
  · rintro ⟨whole | under, further⟩
    · exact absurd whole further
    · exact under

/-- Whether directories stand at a place and all along to it. -/
def Enterable (tree : Tree) (place : Place) : Prop :=
  ∀ front, front <+: place → tree.get? front = some .directory

instance (tree : Tree) : DecidablePred tree.Enterable := fun place =>
  decidable_of_iff (∀ front ∈ place.inits, tree.get? front = some .directory) (by
    simp only [Enterable, List.mem_inits])

/-- The root can be entered. -/
theorem enterable_nil (tree : Tree) : tree.Enterable [] := by
  intro front above
  rw [List.prefix_nil.1 above]
  exact tree.get?_nil

/-- Above a place that can be entered are only such. -/
theorem Enterable.mono {place above : Place} (enterable : tree.Enterable place)
    (under : above <+: place) : tree.Enterable above :=
  fun front first => enterable front (first.trans under)

/-- The directory above a place that can be entered can be entered. -/
theorem Enterable.dropLast {place : Place} (enterable : tree.Enterable place) :
    tree.Enterable place.dropLast :=
  enterable.mono (List.dropLast_prefix place)

/-- A directory in a place that can be entered can be entered. -/
theorem Enterable.concat {place : Place} {name : String} (enterable : tree.Enterable place)
    (found : tree.get? (place ++ [name]) = some .directory) :
    tree.Enterable (place ++ [name]) := by
  intro front above
  rcases List.prefix_concat_iff.1 above with rfl | above
  · exact found
  · exact enterable front above

/-- Where a link leads from can be entered. -/
theorem Enterable.linkStart {place : Place} (enterable : tree.Enterable place) (target : String) :
    tree.Enterable (linkStart target place) := by
  unfold Tree.linkStart
  split
  · exact tree.enterable_nil
  · exact enterable

/-- A walk that follows links ends at none. -/
theorem Way.node_ne_link (way : Way tree true links here names spot)
    (start : tree.Enterable here) (target : String) : spot.node ≠ some (.link target) := by
  induction way with
  | done links here => simp [start here (List.prefix_refl here)]
  | stay _ ih => exact ih start
  | up _ ih => exact ih start.dropLast
  | down _ found _ ih => exact ih (start.concat found)
  | last _ ends =>
    intro found
    simp [show tree.get? _ = _ from found, canEnd] at ends
  | @jump _ _ _ other _ _ _ _ _ _ ih => exact ih (start.linkStart other)

/-! ## Trees without links -/

/-- Whether no link stands anywhere in a tree. -/
def Unlinked (tree : Tree) : Prop := ∀ place target, tree.get? place ≠ some (.link target)

/-- What stands at a place is among the nodes. -/
theorem mem_of_find?_eq_some {nodes : List (Place × Node)} {place : Place} {node : Node}
    (found : find? nodes place = some node) : (place, node) ∈ nodes := by
  induction nodes with
  | nil => cases found
  | cons head rest ih =>
    rw [find?] at found
    split at found
    · rename_i here
      cases found
      exact here ▸ List.mem_cons_self
    · exact List.mem_cons_of_mem _ (ih found)

/-- No link stands in a tree that lists none. -/
theorem unlinked_of_nodes (plain : ∀ entry ∈ tree.nodes, ∀ target, entry.2 ≠ .link target) :
    tree.Unlinked := by
  intro place target found
  rw [get?] at found
  split at found
  · cases found
  · exact plain _ (mem_of_find?_eq_some found) target rfl

/-- Whether a node is a link. -/
def isLink : Node → Bool
  | .link _ => true
  | .file _ | .directory => false

/-- It is enough to look at the places that a tree lists. -/
theorem unlinked_iff_nodes :
    tree.Unlinked ↔ ∀ entry ∈ tree.nodes, (tree.get? entry.1).any isLink = false := by
  constructor
  · intro unlinked entry _
    cases found : tree.get? entry.1 with
    | none => rfl
    | some node =>
      cases node with
      | link target => exact absurd found (unlinked _ _)
      | file content => rfl
      | directory => rfl
  · intro listed place target found
    have member : (place, .link target) ∈ tree.nodes := by
      rw [get?] at found
      split at found
      · cases found
      · exact mem_of_find?_eq_some found
    have plain := listed _ member
    rw [found] at plain
    cases plain

instance (tree : Tree) : Decidable tree.Unlinked := decidable_of_iff _ unlinked_iff_nodes.symm

/-- Whether a walk along names goes down all the way. -/
def Level (names : List String) : Prop := ∀ name ∈ names, name ≠ "." ∧ name ≠ ".."

instance : DecidablePred Level := fun names =>
  inferInstanceAs (Decidable (∀ name ∈ names, name ≠ "." ∧ name ≠ ".."))

/-- Names are level if the first one is and the others are. -/
theorem level_cons {name : String} {rest : List String} :
    Level (name :: rest) ↔ (name ≠ "." ∧ name ≠ "..") ∧ Level rest :=
  List.forall_mem_cons

/-- Two rows of names are level if both are. -/
theorem level_append {front rest : List String} :
    Level (front ++ rest) ↔ Level front ∧ Level rest :=
  List.forall_mem_append

/-- Names are level with another one if they are and it is. -/
theorem level_concat {front : List String} {name : String} :
    Level (front ++ [name]) ↔ Level front ∧ name ≠ "." ∧ name ≠ ".." := by
  rw [level_append, level_cons]
  simp [Level]

/-- Whether directories stand below a place along names, up to the last one. -/
def Leads (tree : Tree) (here : Place) (names : List String) : Prop :=
  ∀ front rest, names = front ++ rest → front ≠ [] → rest ≠ [] →
    tree.get? (here ++ front) = some .directory

/-- One name needs no directory on the way. -/
theorem leads_singleton (name : String) : tree.Leads here [name] := by
  intro front rest split some last
  rcases List.append_eq_singleton_iff.1 split.symm with ⟨none, _⟩ | ⟨_, none⟩
  · exact absurd none some
  · exact absurd none last

/-- The first of several names needs a directory, and the others lead on from it. -/
theorem leads_cons {name : String} {rest : List String} (further : rest ≠ []) :
    tree.Leads here (name :: rest) ↔
      tree.get? (here ++ [name]) = some .directory ∧ tree.Leads (here ++ [name]) rest := by
  constructor
  · intro leads
    refine ⟨leads [name] rest rfl (by simp) further, fun front back split _ last => ?_⟩
    simpa using leads (name :: front) back (by rw [split, List.cons_append]) (by simp) last
  · rintro ⟨found, leads⟩ front back split some last
    rcases List.cons_eq_append_iff.1 split with ⟨rfl, _⟩ | ⟨front, rfl, later⟩
    · exact absurd rfl some
    · cases front with
      | nil => exact found
      | cons next front => simpa using leads (next :: front) back later (by simp) last

/-- Without links a walk down leads to the place of its names. -/
theorem way_iff_of_level (unlinked : tree.Unlinked) (level : Level names) :
    Way tree through links here names spot ↔
      (∀ name ∈ names, IsStep name) ∧ tree.Leads here names ∧
        spot = ⟨here ++ names, tree.get? (here ++ names)⟩ := by
  induction names generalizing here with
  | nil =>
    constructor
    · rintro ⟨⟩
      refine ⟨by simp, fun front rest split some => ?_, by simp⟩
      exact absurd (List.append_eq_nil_iff.1 split.symm).1 some
    · rintro ⟨-, -, rfl⟩
      simpa using Way.done links here
  | cons name rest ih =>
    obtain ⟨⟨notHere, notUp⟩, level⟩ := level_cons.1 level
    constructor
    · intro way
      cases way with
      | stay => exact absurd rfl notHere
      | up => exact absurd rfl notUp
      | down step found further =>
        obtain ⟨steps, leads, rfl⟩ := (ih level).1 further
        refine ⟨List.forall_mem_cons.2 ⟨step, steps⟩, ?_, by simp⟩
        cases rest with
        | nil => exact leads_singleton name
        | cons next rest => exact (leads_cons (by simp)).2 ⟨found, leads⟩
      | last step => exact ⟨by simpa using step, leads_singleton name, rfl⟩
      | jump _ found => exact absurd found (unlinked _ _)
    · rintro ⟨steps, leads, rfl⟩
      obtain ⟨step, steps⟩ := List.forall_mem_cons.1 steps
      have further (found : tree.get? (here ++ [name]) = some .directory)
          (leads : tree.Leads (here ++ [name]) rest) :
          Way tree through links here (name :: rest)
            ⟨here ++ name :: rest, tree.get? (here ++ name :: rest)⟩ := by
        refine .down step found ((ih level).2 ⟨steps, leads, ?_⟩)
        simp
      by_cases atEnd : rest = []
      · subst atEnd
        by_cases found : tree.get? (here ++ [name]) = some .directory
        · refine further found fun front back split some => ?_
          exact absurd (List.append_eq_nil_iff.1 split.symm).1 some
        · refine .last step ?_
          cases stands : tree.get? (here ++ [name]) with
          | none => rfl
          | some node =>
            cases node with
            | file content => rfl
            | directory => exact absurd stands found
            | link target => exact absurd stands (unlinked _ _)
      · obtain ⟨found, leads⟩ := (leads_cons atEnd).1 leads
        exact further found leads

/-- Directories stand along names from the root exactly if the place above can be entered. -/
theorem leads_nil_iff : tree.Leads [] names ↔ tree.Enterable names.dropLast := by
  constructor
  · intro leads front above
    obtain ⟨back, whole⟩ := above
    by_cases root : front = []
    · rw [root]
      exact tree.get?_nil
    · have inner : names ≠ [] := by
        rintro rfl
        exact root (List.append_eq_nil_iff.1 whole).1
      refine leads front (back ++ [names.getLast inner]) ?_ root (by simp)
      rw [← List.append_assoc, whole, List.dropLast_concat_getLast]
  · intro enterable front rest split _ last
    refine enterable front ⟨rest.dropLast, ?_⟩
    rw [split, List.dropLast_append_of_ne_nil last]

end Tree

namespace Path

/-- Whether a path is one that a tree without links can be walked along: no name ends early or is
too long, and the whole path is not either. -/
structure Fits (path : Path) : Prop where
  /-- No name ends early. -/
  noNul : path.names.any Tree.holdsNul = false
  /-- The path is not too long. -/
  short : path.toString.utf8ByteSize ≤ Tree.longestPath
  /-- Each name is looked up. -/
  steps : ∀ name ∈ path.names, Tree.IsStep name

instance : DecidablePred Fits := fun path =>
  decidable_of_iff (path.names.any Tree.holdsNul = false ∧
      path.toString.utf8ByteSize ≤ Tree.longestPath ∧ ∀ name ∈ path.names, Tree.IsStep name)
    ⟨fun ⟨noNul, short, steps⟩ => ⟨noNul, short, steps⟩,
      fun ⟨noNul, short, steps⟩ => ⟨noNul, short, steps⟩⟩

end Path

namespace Tree

variable {tree : Tree} {through : Bool} {path : Path} {spot : Spot}

/-- A path is located by a walk from the root. -/
theorem locate_eq_ok_iff :
    tree.locate through path = .ok spot ↔
      path.names.any holdsNul = false ∧ path.toString.utf8ByteSize ≤ longestPath ∧
        Way tree through mostLinks [] path.names spot := by
  unfold locate
  by_cases nul : path.names.any holdsNul = true
  · rw [if_pos nul, nul]
    simp
  · rw [if_neg nul, Bool.eq_false_iff.2 nul]
    by_cases long : path.toString.utf8ByteSize > longestPath
    · rw [if_pos long]
      simp [Nat.not_le.2 long]
    · rw [if_neg long, walk_eq_ok_iff]
      simp [Nat.not_lt.1 long]

/-- Without links a path that goes down is located at the place of its names. -/
theorem locate_eq_ok_iff_of_level (unlinked : tree.Unlinked) (level : Level path.names) :
    tree.locate through path = .ok spot ↔
      path.Fits ∧ tree.Enterable path.names.dropLast ∧
        spot = ⟨path.names, tree.get? path.names⟩ := by
  rw [locate_eq_ok_iff, way_iff_of_level unlinked level, leads_nil_iff, List.nil_append]
  exact ⟨fun ⟨noNul, short, steps, rest⟩ => ⟨⟨noNul, short, steps⟩, rest⟩,
    fun ⟨⟨noNul, short, steps⟩, rest⟩ => ⟨noNul, short, steps, rest⟩⟩

end Tree

end LintBench
