import LintBench.Proofs.Files.Faults
import Mathlib.Data.List.Induction

/-!
# Changes below a new directory

Where a directory was made, no links stand below it. So a path that goes on from it
along names that do not go up leads to a place below it, and the directories and
files that are put there change nothing elsewhere: when the directory is erased,
the tree is as it was before.
-/

namespace LintBench

/-- A path that goes on has a parent that goes on less far. -/
theorem Path.parent_join (path : Path) {names : List String} (inner : names ≠ []) :
    (path / ({ names } : Path)).parent = path / ({ names := names.dropLast } : Path) :=
  congrArg (Path.mk path.anchor) (List.dropLast_append_of_ne_nil inner)

namespace Tree

variable {origin tree after : Tree} {directory path : Path} {store : Place} {names : List String}

/-! ## Walking on from a directory -/

/-- A walk along names and others after them goes on from where the first ones lead, if that is a
directory. -/
theorem Way.rest_of_append {front rest : List String} {here : Place} {links other : Nat}
    {first whole : Spot} {through : Bool} (start : Way tree false links here front first)
    (entered : first.node = some .directory)
    (walked : tree.walk through other here (front ++ rest) = .ok whole) :
    ∃ left, Way tree through left first.place rest whole := by
  induction start generalizing other with
  | done links here => exact ⟨other, way_of_walk walked⟩
  | stay _ ih =>
    rw [List.cons_append, walk, if_pos rfl] at walked
    exact ih entered walked
  | up _ ih =>
    rw [List.cons_append, walk, if_neg (by decide), if_pos rfl] at walked
    exact ih entered walked
  | down step found _ ih =>
    rw [List.cons_append, walk, if_neg step.notHere, if_neg step.notUp,
      if_neg (Nat.not_lt.2 step.short), found] at walked
    exact ih entered walked
  | last step ends =>
    rw [show tree.get? _ = some Node.directory from entered] at ends
    cases ends
  | @jump _ here name target back _ step found followed _ ih =>
    have further : ((back ++ rest).isEmpty && !through) = false := by
      cases back with
      | nil => simp at followed
      | cons => rfl
    rw [List.cons_append, walk, if_neg step.notHere, if_neg step.notUp,
      if_neg (Nat.not_lt.2 step.short), found] at walked
    simp only [further] at walked
    cases other with
    | zero => cases walked
    | succ other =>
      rw [← List.append_assoc] at walked
      exact ih entered walked

/-- A walk ends where nothing stands by its last name. -/
theorem Way.exists_concat {here : Place} {links : Nat} {spot : Spot}
    (way : Way tree false links here names spot) (start : tree.Enterable here)
    (absent : spot.node = none) :
    ∃ above name, spot.place = above ++ [name] ∧ tree.Enterable above ∧
      names.getLast? = some name := by
  have last {name last : String} {rest : List String} (ends : rest.getLast? = some last) :
      (name :: rest).getLast? = some last := by
    rw [List.getLast?_cons, ends]
    rfl
  induction way with
  | done links here =>
    have stands := start here (List.prefix_refl here)
    rw [show tree.get? here = none from absent] at stands
    cases stands
  | stay _ ih =>
    obtain ⟨above, name, place, enterable, ends⟩ := ih start absent
    exact ⟨above, name, place, enterable, last ends⟩
  | up _ ih =>
    obtain ⟨above, name, place, enterable, ends⟩ := ih start.dropLast absent
    exact ⟨above, name, place, enterable, last ends⟩
  | down _ found _ ih =>
    obtain ⟨above, name, place, enterable, ends⟩ := ih (start.concat found) absent
    exact ⟨above, name, place, enterable, last ends⟩
  | @last _ here name => exact ⟨here, name, rfl, start, rfl⟩
  | @jump _ _ _ target rest _ _ _ followed _ ih =>
    obtain ⟨above, name, place, enterable, ends⟩ := ih (start.linkStart target) absent
    have further : rest ≠ [] := by
      rintro rfl
      simp at followed
    rw [List.getLast?_append_of_ne_nil _ further] at ends
    exact ⟨above, name, place, enterable, last ends⟩

/-! ## Changes that are confined -/

/-- No name ends early that a path goes on with, if none on the whole path does. -/
theorem noNul_of_join (noNul : (path / ({ names } : Path)).names.any holdsNul = false) :
    names.any holdsNul = false := by
  have whole : (path.names ++ names).any holdsNul = false := noNul
  rw [List.any_append, Bool.or_eq_false_iff] at whole
  exact whole.2

/-- Whether a tree comes from another one by changes below a directory. -/
structure Confined (origin : Tree) (directory : Path) (store : Place) (tree : Tree) : Prop where
  /-- The path leads to the directory. -/
  reached : tree.locate false directory = .ok ⟨store, some .directory⟩
  /-- Elsewhere stands what stood there. -/
  outside : ∀ place, ¬ store <+: place → tree.get? place = origin.get? place
  /-- No link stands below the directory. -/
  unlinked : ∀ names target, tree.get? (store ++ names) ≠ some (.link target)
  /-- No name ends early. -/
  free : tree.NulFree

namespace Confined

/-- Names that do not go up lead on from the directory to their place below it. -/
theorem place_eq {through : Bool} {spot : Spot} (confined : Confined origin directory store tree)
    (level : Level names)
    (located : tree.locate through (directory / ({ names } : Path)) = .ok spot) :
    spot.place = store ++ names := by
  obtain ⟨-, -, start⟩ := locate_eq_ok_iff.1 confined.reached
  obtain ⟨-, -, whole⟩ := locate_eq_ok_iff.1 located
  obtain ⟨left, way⟩ := start.rest_of_append rfl (walk_of_way whole)
  exact way.place_eq level fun front _ _ _ _ => confined.unlinked front

/-- No name ends early on a path that goes on from the directory, if none that it goes on with
does. -/
theorem noNul_join (confined : Confined origin directory store tree)
    (noNul : names.any holdsNul = false) :
    (directory / ({ names } : Path)).names.any holdsNul = false := by
  show (directory.names ++ names).any holdsNul = false
  rw [List.any_append, (locate_eq_ok_iff.1 confined.reached).1, noNul]
  rfl

/-- A node that is put below the directory and is no link is a change that is confined. -/
theorem set {node : Node} (confined : Confined origin directory store tree)
    (inner : store ++ names ≠ []) (noLink : ∀ target, node ≠ .link target)
    (noNul : names.any holdsNul = false) (grown : tree.Extends (tree.set (store ++ names) node)) :
    Confined origin directory store (tree.set (store ++ names) node) where
  reached := by
    obtain ⟨next, later, kind⟩ := locate_extend grown confined.reached
    rwa [← show Node.directory = next from kind] at later
  outside place apart := by
    rw [get?_set tree _ place node inner, if_neg, confined.outside place apart]
    rintro rfl
    exact apart (List.prefix_append store names)
  unlinked others target := by
    rw [get?_set tree _ _ node inner]
    split
    · exact fun same => noLink target (Option.some.inj same)
    · exact confined.unlinked others target
  free place present found := by
    rw [get?_set tree _ place node inner] at found
    split at found
    · rename_i same
      have above := confined.free store .directory (node_of_locate confined.reached).symm
      rw [← same, List.any_append, above, noNul]
      rfl
    · exact confined.free place present found

/-- What is stored below the directory is confined. -/
theorem store_file {content : Text.Bytes} (confined : Confined origin directory store tree)
    (level : Level names)
    (stored : tree.store (directory / ({ names } : Path)) content = .ok after) :
    Confined origin directory store after := by
  have grown := extends_store stored
  obtain ⟨⟨place, node⟩, located, noDirectory, rfl⟩ := store_eq_ok_iff.1 stored
  obtain rfl : place = store ++ names := confined.place_eq level located
  refine confined.set ?_ (by simp) (noNul_of_join (locate_eq_ok_iff.1 located).1) grown
  intro root
  rw [node_of_locate located, root] at noDirectory
  exact noDirectory tree.get?_nil

/-- A file that is copied to below the directory is confined. -/
theorem copy {source : Path} (confined : Confined origin directory store tree)
    (level : Level names) (named : source.name ≠ "." ∧ source.name ≠ "..")
    (copied : tree.copy source (directory / ({ names } : Path)) = .ok after) :
    Confined origin directory store after := by
  obtain ⟨-, content, -, stored⟩ := copy_eq_ok_iff.1 copied
  unfold copyTarget at stored
  split at stored
  · refine store_file confined (level_concat.2 ⟨level, named⟩) (?_ : tree.store _ content = _)
    rw [← stored]
    congr 1
    exact congrArg (Path.mk directory.anchor) (List.append_assoc _ _ _).symm
  · exact confined.store_file level stored

/-- A directory that is made below the directory is confined. -/
theorem makeDirectory (confined : Confined origin directory store tree) (level : Level names)
    (made : tree.makeDirectory (directory / ({ names } : Path)) = .ok after) :
    Confined origin directory store after := by
  have grown := extends_makeDirectory made
  obtain ⟨⟨place, node⟩, located, absent, rfl⟩ := makeDirectory_eq_ok_iff.1 made
  obtain rfl : place = store ++ names := confined.place_eq level located
  refine confined.set ?_ (by simp) (noNul_of_join (locate_eq_ok_iff.1 located).1) grown
  intro root
  rw [node_of_locate located, root] at absent
  cases tree.get?_nil.symm.trans absent

/-- The directory itself need not be made. -/
theorem makeDirectories_self (confined : Confined origin directory store tree) :
    tree.makeDirectories directory = .ok tree :=
  makeDirectories_of_locate confined.reached

/-- Directories that are made below the directory are confined. -/
theorem makeDirectories (confined : Confined origin directory store tree) (level : Level names)
    (made : tree.makeDirectories (directory / ({ names } : Path)) = .ok after) :
    Confined origin directory store after := by
  induction names using List.reverseRecOn generalizing after with
  | nil =>
    have itself : directory / ({ names := [] } : Path) = directory :=
      congrArg (Path.mk directory.anchor) (List.append_nil _)
    rw [itself, confined.makeDirectories_self] at made
    cases made
    exact confined
  | append_singleton names name ih =>
    have ensured {middle last : Tree} (confined : Confined origin directory store middle)
        (made : middle.ensureDirectory (directory / ({ names := names ++ [name] } : Path)) =
          .ok last) : Confined origin directory store last := by
      rcases eq_of_ensureDirectory made with fresh | rfl
      · exact confined.makeDirectory level fresh
      · exact confined
    have along : (directory / ({ names := names ++ [name] } : Path)).names.reverse =
        name :: (directory / ({ names } : Path)).names.reverse := by
      show (directory.names ++ (names ++ [name])).reverse = name :: (directory.names ++ names).reverse
      simp
    rw [Tree.makeDirectories, along, ensureAlong, ← along, List.reverse_reverse] at made
    split at made
    · obtain ⟨middle, first, last⟩ := Runs.bind_eq_ok.1 made
      exact ensured (ih (level_append.1 level).1 first) last
    · exact ensured confined made

/-- With the directory all changes are erased, if nothing stood there. -/
theorem get?_erase (confined : Confined origin directory store tree)
    (absent : ∀ names, origin.get? (store ++ names) = none) (place : Place) :
    (tree.erase store).get? place = origin.get? place := by
  by_cases under : store <+: place
  · obtain ⟨names, rfl⟩ := under
    rw [absent names]
    refine get?_erase_of_below tree ?_ (List.prefix_append store names)
    intro root
    have stands := absent names
    rw [root, get?_nil] at stands
    cases stands
  · rw [get?_erase_of_not_below tree under, confined.outside place under]

end Confined

/-! ## Trees that can be met -/

/-- Whether a tree is one that can be met: its names can be met in directories, none of them ends
early, and in directories its nodes stand. -/
structure Sound (tree : Tree) : Prop where
  /-- Every name can be met. -/
  named : ∀ entry ∈ tree.nodes, ∀ name ∈ entry.1, Path.IsPlain name
  /-- No name ends early. -/
  noNul : ∀ entry ∈ tree.nodes, entry.1.any holdsNul = false
  /-- Every node stands in a directory. -/
  housed : ∀ entry ∈ tree.nodes, tree.get? entry.1.dropLast = some .directory

/-- A node that stands at a place other than the root is listed. -/
theorem mem_nodes_of_get? {place : Place} {node : Node} (found : tree.get? place = some node)
    (inner : place ≠ []) : (place, node) ∈ tree.nodes := by
  rw [get?, if_neg inner] at found
  exact mem_of_find?_eq_some found

namespace Sound

/-- No name in a sound tree holds the character that ends names. -/
theorem free (sound : tree.Sound) : tree.NulFree := by
  intro place node found
  by_cases root : place = []
  · rw [root]
    rfl
  · exact sound.noNul _ (mem_nodes_of_get? found root)

/-- Every name in a sound tree is one name of a path. -/
theorem isPlain (sound : tree.Sound) {place : Place} {node : Node}
    (found : tree.get? place = some node) : ∀ name ∈ place, Path.IsPlain name := by
  by_cases root : place = []
  · rw [root]
    simp
  · exact sound.named _ (mem_nodes_of_get? found root)

end Sound

/-- What is listed after a node was put was listed before, or is that node. -/
theorem mem_put {nodes : List (Place × Node)} {place : Place} {node : Node} {entry : Place × Node}
    (member : entry ∈ put nodes place node) : entry = (place, node) ∨ entry ∈ nodes := by
  induction nodes with
  | nil => exact .inl (List.mem_singleton.1 member)
  | cons head rest ih =>
    rw [put] at member
    split at member
    · exact (List.mem_cons.1 member).imp id (List.mem_cons_of_mem head)
    · rcases List.mem_cons.1 member with rfl | later
      · exact .inr List.mem_cons_self
      · exact (ih later).imp id (List.mem_cons_of_mem head)

/-- A directory that was made in a tree where nothing stood. -/
structure NewDirectory (origin : Tree) (directory : Path) (store : Place) (tree : Tree) : Prop where
  /-- Nothing stood there. -/
  absent : ∀ names, origin.get? (store ++ names) = none
  /-- The tree has the directory, and is else as it was. -/
  confined : Confined origin directory store tree
  /-- The names are such that can be met, if the last name of the path is. -/
  named : (∀ name, directory.names.getLast? = some name → Path.IsPlain name) →
    ∀ entry ∈ tree.nodes, ∀ name ∈ entry.1, Path.IsPlain name

/-- A directory that is made in a tree that can be met is a new one. -/
theorem Sound.exists_newDirectory (sound : origin.Sound)
    (made : origin.makeDirectory directory = .ok tree) :
    ∃ store, NewDirectory origin directory store tree := by
  have grown := extends_makeDirectory made
  obtain ⟨⟨store, node⟩, located, absent, rfl⟩ := makeDirectory_eq_ok_iff.1 made
  obtain ⟨nul, short, way⟩ := locate_eq_ok_iff.1 located
  obtain ⟨above, name, rfl, enterable, ends⟩ := way.exists_concat origin.enterable_nil absent
  have stands := enterable above (List.prefix_refl above)
  have free : origin.get? (above ++ [name]) = none := (node_of_locate located).symm.trans absent
  have inner : above ++ [name] ≠ [] := by simp
  have below (names : List String) : origin.get? (above ++ [name] ++ names) = none :=
    get?_below sound.housed free names
  refine ⟨above ++ [name], below, ⟨?_, ?_, ?_, ?_⟩, ?_⟩
  · exact locate_eq_ok_iff.2 ⟨nul, short, way.set absent (by simp)⟩
  · intro place apart
    rw [get?_set origin _ place _ inner, if_neg]
    rintro rfl
    exact apart (List.prefix_refl _)
  · intro names target
    rw [get?_set origin _ _ _ inner, below]
    split <;> simp
  · intro place present found
    rw [get?_set origin _ place _ inner] at found
    split at found
    · rename_i same
      rw [List.any_eq_false] at nul
      rw [← same, List.any_append, sound.free above _ stands]
      simpa using nul name (List.mem_of_getLast? ends)
    · exact sound.free place present found
  · intro plain entry member
    rcases mem_put member with rfl | listed
    · intro other inside
      rcases List.mem_append.1 inside with inside | inside
      · exact sound.isPlain stands other inside
      · rw [List.mem_singleton.1 inside]
        exact plain name ends
    · exact sound.named entry listed

end Tree

end LintBench
