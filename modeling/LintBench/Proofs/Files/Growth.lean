import LintBench.Files.Resolution
import LintBench.Proofs.Files.Walking
import LintBench.Proofs.Runs

/-!
# Trees that only grow

Making directories, storing and copying leave every node that is there: a
directory and a link stay what they are, and a file stays a file. So what a path
led to in a tree it still leads to afterwards, and a path that resolved still
resolves to the same.
-/

namespace LintBench

open Text (Bytes)

/-- Whether a node may have become another one in a tree that grew: only the content of a file may
have changed. -/
def Node.SameKind : Node → Node → Prop
  | .file _, .file _ => True
  | node, next => node = next

/-- A node is of its own kind. -/
theorem Node.SameKind.refl (node : Node) : Node.SameKind node node := by
  cases node <;> simp [SameKind]

/-- Being of the same kind is passed on. -/
theorem Node.SameKind.trans {first second third : Node} (one : first.SameKind second)
    (two : second.SameKind third) : first.SameKind third := by
  cases first <;> cases second <;> cases third <;> simp_all [SameKind]

namespace Tree

/-- A tree extends another if it has all nodes of that one, and no other links. -/
structure Extends (before after : Tree) : Prop where
  /-- Every node is still there. -/
  kept : ∀ place node, before.get? place = some node →
    ∃ next, after.get? place = some next ∧ node.SameKind next
  /-- The links are the same. -/
  links : after.links = before.links

/-- A tree extends itself. -/
theorem Extends.refl (tree : Tree) : tree.Extends tree where
  kept _ node found := ⟨node, found, Node.SameKind.refl node⟩
  links := rfl

/-- Extending is passed on. -/
theorem Extends.trans {first second third : Tree} (one : first.Extends second)
    (two : second.Extends third) : first.Extends third where
  kept place node found := by
    obtain ⟨next, there, alike⟩ := one.kept place node found
    obtain ⟨last, after, same⟩ := two.kept place next there
    exact ⟨last, after, alike.trans same⟩
  links := two.links.trans one.links

/-! ## What a change does -/

variable {tree after : Tree} {path : Path}

/-- Storing sets a file at the place that the path leads to, if no directory stands there. -/
theorem store_eq_ok_iff {content : Bytes} :
    tree.store path content = .ok after ↔
      ∃ spot, tree.locate true path = .ok spot ∧ spot.node ≠ some .directory ∧
        after = tree.set spot.place (.file content) := by
  unfold store
  cases located : tree.locate true path with
  | error fault => simp
  | ok spot =>
    obtain ⟨place, node⟩ := spot
    rcases node with _ | content | target | _ <;> simp [eq_comm]

/-- Making a directory sets it at the place that the path leads to, if nothing stands there. -/
theorem makeDirectory_eq_ok_iff :
    tree.makeDirectory path = .ok after ↔
      ∃ spot, tree.locate false path = .ok spot ∧ spot.node = none ∧
        after = tree.set spot.place .directory := by
  unfold makeDirectory
  cases located : tree.locate false path with
  | error fault => simp
  | ok spot =>
    obtain ⟨place, node⟩ := spot
    cases node <;> simp [eq_comm]

/-- A file is copied by storing its content. -/
theorem copy_eq_ok_iff {source target : Path} :
    tree.copy source target = .ok after ↔
      tree.sameNode source (tree.copyTarget source target) = false ∧
        ∃ content, tree.content source = .ok content ∧
          tree.store (tree.copyTarget source target) content = .ok after := by
  simp only [copy]
  cases tree.sameNode source (tree.copyTarget source target) with
  | true => simp
  | false => simp [Runs.bind_eq_ok]

/-- To make sure of a directory it is made, or it is there. -/
theorem eq_of_ensureDirectory (made : tree.ensureDirectory path = .ok after) :
    tree.makeDirectory path = .ok after ∨ after = tree := by
  unfold ensureDirectory at made
  split at made
  · rename_i next fresh
    cases made
    exact .inl fresh
  · split at made
    · cases made
      exact .inr rfl
    · cases made
    · cases made

/-- A directory that is there need not be made. -/
theorem makeDirectories_of_occupied (occupied : tree.makeDirectory path = .error .occupied)
    (there : tree.isDirectory path = .ok true) : tree.makeDirectories path = .ok tree := by
  have ensured : tree.ensureDirectory path = .ok tree := by
    rw [ensureDirectory, occupied]
    simp only [there]
  obtain ⟨anchor, names⟩ := path
  obtain ⟨reversed, rfl⟩ : ∃ reversed : List String, names = reversed.reverse :=
    ⟨names.reverse, names.reverse_reverse.symm⟩
  rw [makeDirectories, List.reverse_reverse]
  cases reversed with
  | nil => exact ensured
  | cons name above =>
    simp only [ensureAlong, occupied]
    exact ensured

/-- What making a directory keeps, making sure of one keeps. -/
theorem keeps_of_ensureDirectory (Kept : Tree → Prop)
    (keep : ∀ path {tree after : Tree}, tree.makeDirectory path = .ok after → Kept tree → Kept after)
    (made : tree.ensureDirectory path = .ok after) (kept : Kept tree) : Kept after := by
  rcases eq_of_ensureDirectory made with fresh | rfl
  · exact keep path fresh kept
  · exact kept

/-- What making one directory keeps, making those on the way keeps as well. -/
theorem keeps_of_ensureAlong (Kept : Tree → Prop)
    (keep : ∀ path {tree after : Tree}, tree.makeDirectory path = .ok after → Kept tree → Kept after)
    {anchor : Anchor} {reversed : List String} (made : tree.ensureAlong anchor reversed = .ok after)
    (kept : Kept tree) : Kept after := by
  induction reversed generalizing tree after with
  | nil => exact keeps_of_ensureDirectory Kept keep made kept
  | cons name above ih =>
    rw [ensureAlong] at made
    split at made
    · obtain ⟨middle, first, last⟩ := Runs.bind_eq_ok.1 made
      exact keeps_of_ensureDirectory Kept keep last (ih first kept)
    · exact keeps_of_ensureDirectory Kept keep made kept

/-- What making a directory keeps, making a directory with those on the way to it keeps. -/
theorem keeps_of_makeDirectories (Kept : Tree → Prop)
    (keep : ∀ path {tree after : Tree}, tree.makeDirectory path = .ok after → Kept tree → Kept after)
    (made : tree.makeDirectories path = .ok after) (kept : Kept tree) : Kept after :=
  keeps_of_ensureAlong Kept keep made kept

/-! ## Changes extend a tree -/

/-- The links after a node that is none was put where none stood. -/
theorem links_put {nodes : List (Place × Node)} {place : Place} {node : Node}
    (unlinked : ∀ target, node ≠ .link target)
    (free : ∀ target, find? nodes place ≠ some (.link target)) :
    links { nodes := put nodes place node } = links { nodes } := by
  induction nodes with
  | nil => cases node <;> simp_all [put, links]
  | cons head rest ih =>
    obtain ⟨first, present⟩ := head
    simp only [find?] at free
    by_cases same : first = place
    · rw [if_pos same] at free
      cases node <;> cases present <;> simp_all [put, links]
    · rw [if_neg same] at free
      have later := ih free
      simp only [links] at later ⊢
      rw [put, if_neg same, List.filterMap_cons, List.filterMap_cons, later]

/-- Setting a node extends a tree if nothing of another kind stood there. -/
theorem extends_set {place : Place} {node : Node} (inner : place ≠ [])
    (unlinked : ∀ target, node ≠ .link target)
    (free : ∀ present, tree.get? place = some present → present.SameKind node) :
    tree.Extends (tree.set place node) where
  kept asked present found := by
    rw [get?_set tree place asked node inner]
    by_cases same : place = asked
    · subst same
      exact ⟨node, if_pos rfl, free present found⟩
    · rw [if_neg same]
      exact ⟨present, found, Node.SameKind.refl present⟩
  links := by
    refine links_put unlinked fun target found => ?_
    have kind := free (.link target) (by simpa [get?, inner] using found)
    cases node <;> simp_all [Node.SameKind]

/-- The place where a path is located tells what stands there. -/
theorem node_of_locate {through : Bool} {spot : Spot}
    (located : tree.locate through path = .ok spot) : spot.node = tree.get? spot.place :=
  (locate_eq_ok_iff.1 located).2.2.node_eq

/-- Writing a file extends a tree. -/
theorem extends_store {content : Bytes} (stored : tree.store path content = .ok after) :
    tree.Extends after := by
  obtain ⟨spot, located, noDirectory, rfl⟩ := store_eq_ok_iff.1 stored
  have way := (locate_eq_ok_iff.1 located).2.2
  have noLink := way.node_ne_link tree.enterable_nil
  rw [node_of_locate located] at noDirectory noLink
  refine extends_set ?_ (by simp) fun present found => ?_
  · intro root
    rw [root] at noDirectory
    exact noDirectory tree.get?_nil
  · rw [found] at noDirectory noLink
    cases present with
    | file => trivial
    | link target => exact absurd rfl (noLink target)
    | directory => exact absurd rfl noDirectory

/-- Making a directory extends a tree. -/
theorem extends_makeDirectory (made : tree.makeDirectory path = .ok after) :
    tree.Extends after := by
  obtain ⟨spot, located, free, rfl⟩ := makeDirectory_eq_ok_iff.1 made
  rw [node_of_locate located] at free
  refine extends_set ?_ (by simp) fun present found => ?_
  · intro root
    simp [root] at free
  · simp [free] at found

/-- Making directories extends a tree. -/
theorem extends_makeDirectories (made : tree.makeDirectories path = .ok after) :
    tree.Extends after :=
  keeps_of_makeDirectories tree.Extends
    (fun _ _ _ made sofar => sofar.trans (extends_makeDirectory made)) made (Extends.refl tree)

/-- Copying a file extends a tree. -/
theorem extends_copy {source target : Path} (copied : tree.copy source target = .ok after) :
    tree.Extends after := by
  obtain ⟨-, content, -, stored⟩ := copy_eq_ok_iff.1 copied
  exact extends_store stored

/-- Whether a tree has nothing that another one has not but directories. -/
def AddsDirectories (before after : Tree) : Prop :=
  ∀ place, after.get? place = before.get? place ∨
    before.get? place = none ∧ after.get? place = some .directory

/-- A tree adds no directories to itself. -/
theorem AddsDirectories.refl (tree : Tree) : tree.AddsDirectories tree := fun _ => .inl rfl

/-- Adding directories leaves the files as they are. -/
theorem AddsDirectories.file_iff {before : Tree} (adds : before.AddsDirectories after)
    (place : Place) (content : Bytes) :
    after.get? place = some (.file content) ↔ before.get? place = some (.file content) := by
  rcases adds place with same | ⟨absent, there⟩
  · rw [same]
  · simp [absent, there]

/-- Making directories adds directories only. -/
theorem addsDirectories_makeDirectories (made : tree.makeDirectories path = .ok after) :
    tree.AddsDirectories after := by
  refine keeps_of_makeDirectories tree.AddsDirectories (fun _ middle next made sofar place => ?_)
    made (.refl tree)
  obtain ⟨spot, located, free, rfl⟩ := makeDirectory_eq_ok_iff.1 made
  rw [node_of_locate located] at free
  have inner : spot.place ≠ [] := by
    intro root
    simp [root] at free
  rw [get?_set middle spot.place place _ inner]
  by_cases here : spot.place = place
  · subst here
    rw [if_pos rfl]
    refine .inr ⟨?_, rfl⟩
    rcases sofar spot.place with same | ⟨absent, -⟩
    · rw [← same, free]
    · exact absent
  · rw [if_neg here]
    exact sofar place

/-- Whether a path leads to the file at a place. -/
def LeadsToFile (tree : Tree) (path : Path) (place : Place) : Prop :=
  ∃ content, tree.locate true path = .ok ⟨place, some (.file content)⟩

/-! ## Walking and resolving in a tree that grew -/

section Grown

variable {before : Tree}

/-- What a walk found it still finds. -/
theorem Way.extend {through : Bool} {links : Nat} {here : Place} {names : List String}
    {spot : Spot} {node : Node} (way : Way before through links here names spot)
    (grown : before.Extends after) (there : spot.node = some node) :
    ∃ next, Way after through links here names ⟨spot.place, some next⟩ ∧ node.SameKind next := by
  have steady {place : Place} (found : before.get? place = some .directory) :
      after.get? place = some .directory := by
    obtain ⟨next, later, kind⟩ := grown.kept place _ found
    rw [later, show Node.directory = next from kind]
  induction way with
  | done links here =>
    obtain ⟨next, later, kind⟩ := grown.kept here node there
    refine ⟨next, ?_, kind⟩
    rw [← later]
    exact .done links here
  | stay _ ih =>
    obtain ⟨next, way, kind⟩ := ih there
    exact ⟨next, .stay way, kind⟩
  | up _ ih =>
    obtain ⟨next, way, kind⟩ := ih there
    exact ⟨next, .up way, kind⟩
  | down step found _ ih =>
    obtain ⟨next, way, kind⟩ := ih there
    exact ⟨next, .down step (steady found) way, kind⟩
  | @last links here name step ends =>
    have found : before.get? (here ++ [name]) = some node := there
    obtain ⟨next, later, kind⟩ := grown.kept _ node found
    refine ⟨next, ?_, kind⟩
    rw [← later]
    refine .last step ?_
    rw [later]
    rw [found] at ends
    cases node <;> cases next <;> simp_all [canEnd, Node.SameKind]
  | @jump _ _ _ target _ _ step found followed _ ih =>
    obtain ⟨next, way, kind⟩ := ih there
    obtain ⟨link, later, same⟩ := grown.kept _ _ found
    rw [← show Node.link target = link from same] at later
    exact ⟨next, .jump step later followed way, kind⟩

/-- What a path leads to it still leads to. -/
theorem locate_extend {through : Bool} {place : Place} {node : Node} (grown : before.Extends after)
    (located : before.locate through path = .ok ⟨place, some node⟩) :
    ∃ next, after.locate through path = .ok ⟨place, some next⟩ ∧ node.SameKind next := by
  obtain ⟨noNul, short, way⟩ := locate_eq_ok_iff.1 located
  obtain ⟨next, later, kind⟩ := way.extend grown rfl
  exact ⟨next, locate_eq_ok_iff.2 ⟨noNul, short, later⟩, kind⟩

/-- What leads to a file still leads to it. -/
theorem LeadsToFile.extend {place : Place} (leads : before.LeadsToFile path place)
    (grown : before.Extends after) : after.LeadsToFile path place := by
  obtain ⟨content, located⟩ := leads
  obtain ⟨next, later, kind⟩ := locate_extend grown located
  cases next with
  | file content => exact ⟨content, later⟩
  | link => cases kind
  | directory => cases kind

/-- What stands at a place is still there. -/
theorem nodeAt_extend {place : Place} {node : Node} (grown : before.Extends after)
    (found : before.nodeAt place = .ok node) :
    ∃ next, after.nodeAt place = .ok next ∧ node.SameKind next := by
  unfold nodeAt at found ⊢
  split at found
  · cases found
  · split at found
    · cases found
    · rename_i nul long
      rw [if_neg nul, if_neg long]
      split at found
      · rename_i reached _ walked
        cases found
        obtain ⟨next, way, kind⟩ := (way_of_walk walked).extend grown rfl
        exact ⟨next, by rw [walk_of_way way], kind⟩
      · cases found
      · cases found

/-- A resolution passes by what is no link. -/
theorem follow_of_unlinked {strict : Bool} {room : Nat} {fresh : List Place}
    {resolved : List (Place × Place)} {here : Place} {name : String} {rest : List Turn} {node : Node}
    (notHere : name ≠ ".")
 (notUp : name ≠ "..") (found : tree.nodeAt (here ++ [name]) = .ok node)
    (unlinked : ∀ target, node ≠ .link target) :
    tree.follow strict room fresh resolved here (.name name :: rest) =
      tree.follow strict room fresh resolved (here ++ [name]) rest := by
  rw [follow, if_neg notHere, if_neg notUp]
  cases node with
  | link target => exact absurd rfl (unlinked target)
  | file content => simp only [found]
  | directory => simp only [found]

/-- What a strict resolution has still to take leads to the same place. -/
theorem follow_extend {room : Nat} {fresh : List Place} {resolved : List (Place × Place)}
    {here place : Place} {turns : List Turn} (grown : before.Extends after)
    (followed : before.follow true room fresh resolved here turns = .ok place) :
    after.follow true room fresh resolved here turns = .ok place := by
  have stays {next : Place} {target : String} (found : before.nodeAt next = .ok (.link target)) :
      after.nodeAt next = .ok (.link target) := by
    obtain ⟨link, later, same⟩ := nodeAt_extend grown found
    rw [later, show Node.link target = link from same]
  fun_induction follow before true room fresh resolved here turns with
  | case1 => simpa [follow] using followed
  | case2 _ _ _ _ _ _ ih =>
    rw [follow]
    exact ih followed
  | case3 _ _ _ _ _ ih =>
    rw [follow, if_pos rfl]
    exact ih followed
  | case4 _ _ _ _ _ _ ih =>
    rw [follow, if_neg (by decide), if_pos rfl]
    exact ih followed
  | case5 => cases followed
  | case6 _ _ _ _ _ _ _ _ _ fault _ lenient => exact absurd (Bool.true_or _) lenient
  | case7 _ _ _ here name _ notHere notUp next target found there left ih =>
    have still : after.nodeAt (here ++ [name]) = .ok (.link target) := stays found
    rw [follow, if_neg notHere, if_neg notUp]
    simp only [still, show List.lookup (here ++ [name]) _ = some there from left]
    exact ih followed
  | case8 => cases followed
  | case9 _ _ here name _ notHere notUp next target found left entered room ih =>
    have still : after.nodeAt (here ++ [name]) = .ok (.link target) := stays found
    rw [follow, if_neg notHere, if_neg notUp]
    simp only [still, show List.lookup (here ++ [name]) _ = none from left]
    rw [dif_pos (show here ++ [name] ∈ _ from entered)]
    exact ih followed
  | case10 => cases followed
  | case11 _ _ _ _ _ _ _ _ _ _ _ _ _ lenient => exact absurd rfl lenient
  | case12 _ _ _ _ _ _ notHere notUp _ node unlinked found ih =>
    obtain ⟨next, later, kind⟩ := nodeAt_extend grown found
    have stillUnlinked : ∀ target, next ≠ .link target := by
      rintro target rfl
      cases node <;> simp_all [Node.SameKind]
    rw [follow_of_unlinked notHere notUp later stillUnlinked]
    exact ih followed

/-- A path that resolved still resolves to the same. -/
theorem resolveStrict_extend {resolved : Path} (grown : before.Extends after)
    (found : before.resolveStrict path = .ok resolved) :
    after.resolveStrict path = .ok resolved := by
  unfold resolveStrict resolve at found ⊢
  obtain ⟨place, followed, rfl⟩ := Runs.map_eq_ok.1 found
  rw [grown.links, follow_extend grown followed]
  rfl

end Grown

/-! ## A file that is there for a while -/

section Passing

variable {through : Bool} {links : Nat} {here : Place} {names : List String} {spot : Spot}

/-- A walk that ends at no link leads there whether or not it follows a last link. -/
theorem Way.of_noLink (way : Way tree false links here names spot)
    (noLink : ∀ target, spot.node ≠ some (.link target)) (through : Bool) :
    Way tree through links here names spot := by
  induction way with
  | done links here => exact .done links here
  | stay _ ih => exact .stay (ih noLink)
  | up _ ih => exact .up (ih noLink)
  | down step found _ ih => exact .down step found (ih noLink)
  | @last links here name step ends =>
    refine .last step ?_
    rcases stands : tree.get? (here ++ [name]) with _ | content | target | _
    · rfl
    · rfl
    · exact absurd stands (noLink target)
    · simp [stands, canEnd] at ends
  | jump step found followed _ ih =>
    refine .jump step found ?_ (ih noLink)
    rw [Bool.not_false, Bool.and_true] at followed
    rw [followed, Bool.false_and]

/-- A path that leads to no link leads there whether links are followed or not. -/
theorem locate_of_noLink (located : tree.locate false path = .ok spot)
    (noLink : ∀ target, spot.node ≠ some (.link target)) (through : Bool) :
    tree.locate through path = .ok spot := by
  obtain ⟨nul, short, way⟩ := locate_eq_ok_iff.1 located
  exact locate_eq_ok_iff.2 ⟨nul, short, way.of_noLink noLink through⟩

/-- A walk to where nothing stands leads to the file or directory that is set there. -/
theorem Way.set {new : Node} (way : Way tree through links here names spot)
    (absent : spot.node = none) (noLink : ∀ target, new ≠ .link target) :
    Way (tree.set spot.place new) through links here names ⟨spot.place, some new⟩ := by
  have inner {place : Place} (free : tree.get? place = none) : place ≠ [] := by
    rintro rfl
    simp at free
  have others {place asked : Place} {node : Node} (free : tree.get? place = none)
      (found : tree.get? asked = some node) :
      (tree.set place new).get? asked = some node := by
    rw [get?_set tree place asked _ (inner free), if_neg, found]
    rintro rfl
    rw [free] at found
    cases found
  have itself {place : Place} (free : tree.get? place = none) :
      (tree.set place new).get? place = some new := by
    rw [get?_set tree place place _ (inner free), if_pos rfl]
  induction way with
  | done links here =>
    rw [← itself absent]
    exact .done links here
  | stay _ ih => exact .stay (ih absent)
  | up _ ih => exact .up (ih absent)
  | @down _ _ _ _ spot step found further ih =>
    have free : tree.get? spot.place = none := further.node_eq.symm.trans absent
    exact .down step (others free found) (ih absent)
  | last step ends =>
    have there := itself absent
    rw [← there]
    cases new with
    | file content => exact .last step (by rw [there]; rfl)
    | link target => exact absurd rfl (noLink target)
    | directory => exact .down step there (.done _ _)
  | @jump _ _ _ _ _ spot step found followed further ih =>
    have free : tree.get? spot.place = none := further.node_eq.symm.trans absent
    exact .jump step (others free found) followed (ih absent)

/-- What was put where nothing stood is added at the end. -/
theorem put_of_absent {nodes : List (Place × Node)} {place : Place} {node : Node}
    (absent : ∀ entry ∈ nodes, entry.1 ≠ place) : put nodes place node = nodes ++ [(place, node)] := by
  induction nodes with
  | nil => rfl
  | cons head rest ih =>
    obtain ⟨first, others⟩ := List.forall_mem_cons.1 absent
    rw [put, if_neg first, ih others, List.cons_append]

/-- A file that is stored where nothing stands, neither there nor below, and removed again leaves
the tree as it was. -/
theorem discard_store {content : Bytes} {place : Place}
    (located : tree.locate false path = .ok ⟨place, none⟩)
    (free : ∀ entry ∈ tree.nodes, ¬ place <+: entry.1)
    (stored : tree.store path content = .ok after) : after.discard path = .ok tree := by
  obtain ⟨nul, short, way⟩ := locate_eq_ok_iff.1 located
  have reached : tree.locate true path = .ok ⟨place, none⟩ :=
    locate_of_noLink located (by simp) true
  rw [store, reached] at stored
  cases stored
  have there : (tree.set place (.file content)).locate false path =
      .ok ⟨place, some (.file content)⟩ :=
    locate_eq_ok_iff.2 ⟨nul, short, way.set rfl (by simp)⟩
  have absent : ∀ entry ∈ tree.nodes, entry.1 ≠ place := fun entry member same =>
    free entry member (same ▸ List.prefix_refl _)
  have others : tree.nodes.filter (fun entry => !place.isPrefixOf entry.1) = tree.nodes :=
    List.filter_eq_self.2 fun entry member => by
      rw [Bool.not_eq_true', Bool.eq_false_iff, ne_eq, List.isPrefixOf_iff_prefix]
      exact free entry member
  rw [discard, there]
  simp only [erase, set, put_of_absent absent, List.filter_append, others]
  simp

end Passing

end Tree

end LintBench
