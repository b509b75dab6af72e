import LintBench.Files.Search
import LintBench.Proofs.Files.Unlinked
import LintBench.Proofs.Keyed

/-!
# What a search finds

In a tree without links a search that does not go up finds files below the
directory where it starts, and it depends on nothing but what stands on the way
there and below.
-/

namespace LintBench

/-- Whether a name can be met in a directory. -/
structure Path.IsPlain (name : String) : Prop where
  /-- It is one name that names something. -/
  proper : Path.IsProper name
  /-- It does not go up. -/
  notUp : name ≠ ".."

instance : DecidablePred Path.IsPlain := fun name =>
  decidable_of_iff (Path.IsProper name ∧ name ≠ "..")
    ⟨fun ⟨proper, notUp⟩ => ⟨proper, notUp⟩, fun ⟨proper, notUp⟩ => ⟨proper, notUp⟩⟩

/-- Whether neither of two places is the other one or below it. -/
structure Apart (one other : Place) : Prop where
  /-- The second is not below the first. -/
  below : ¬ one <+: other
  /-- The second is not above the first. -/
  above : ¬ other <+: one

namespace Apart

variable {one other : Place}

/-- Places are apart from each other. -/
theorem symm (apart : Apart one other) : Apart other one := ⟨apart.above, apart.below⟩

/-- A place below the one is not below the other. -/
theorem not_below (apart : Apart one other) (names : List String) : ¬ other <+: one ++ names :=
  fun under => (List.prefix_or_prefix_of_prefix under (List.prefix_append one names)).elim
    apart.above apart.below

/-- A place on the way to one below the one is not below the other. -/
theorem not_below_of_above (apart : Apart one other) {front : Place} {names : List String}
    (above : front <+: one ++ names) : ¬ other <+: front :=
  fun under => apart.not_below names (under.trans above)

end Apart

namespace Tree

/-- Names that can be met in directories go down. -/
theorem level_of_plain {names : List String} (plain : ∀ name ∈ names, Path.IsPlain name) :
    Level names := by
  intro name member
  obtain ⟨⟨named, -⟩, notUp⟩ := plain name member
  refine ⟨?_, notUp⟩
  rintro rfl
  simp [Path.isName] at named

/-- Whether a tree is one that can be met if there are no links: its names can be met in
directories, and in directories its nodes stand. -/
structure Plain (tree : Tree) : Prop where
  /-- No node is a link. -/
  unlinked : ∀ entry ∈ tree.nodes, ∀ target, entry.2 ≠ .link target
  /-- Every name can be met. -/
  named : ∀ entry ∈ tree.nodes, ∀ name ∈ entry.1, Path.IsPlain name
  /-- Every node stands in a directory. -/
  housed : ∀ entry ∈ tree.nodes, tree.get? entry.1.dropLast = some .directory

instance (tree : Tree) : Decidable tree.Plain :=
  decidable_of_iff
    ((∀ entry ∈ tree.nodes, isLink entry.2 = false) ∧
      (∀ entry ∈ tree.nodes, ∀ name ∈ entry.1, Path.IsPlain name) ∧
      ∀ entry ∈ tree.nodes, tree.get? entry.1.dropLast = some .directory)
    ⟨fun ⟨unlinked, named, housed⟩ =>
      ⟨fun entry member target same => by simpa [same, isLink] using unlinked entry member, named,
        housed⟩,
      fun plain => ⟨fun entry member => by
        cases kind : entry.2 with
        | link target => exact absurd kind (plain.unlinked entry member target)
        | file content => rfl
        | directory => rfl, plain.named, plain.housed⟩⟩

/-- A plain tree has no links. -/
theorem Plain.toUnlinked {tree : Tree} (plain : tree.Plain) : tree.Unlinked :=
  unlinked_of_nodes plain.unlinked

/-- Nothing stands below a place where nothing stands, if every node stands in a directory. -/
theorem get?_below {tree : Tree}
    (housed : ∀ entry ∈ tree.nodes, tree.get? entry.1.dropLast = some .directory) {place : Place}
    (absent : tree.get? place = none) (names : List String) : tree.get? (place ++ names) = none := by
  induction names generalizing place with
  | nil => rwa [List.append_nil]
  | cons name rest ih =>
    have next : tree.get? (place ++ [name]) = none := by
      rw [Option.eq_none_iff_forall_ne_some]
      intro node found
      rw [get?, if_neg (by simp)] at found
      have house := housed _ (mem_of_find?_eq_some found)
      simp [absent] at house
    rw [List.append_cons]
    exact ih next

/-- Below a place where nothing stands nothing stands. -/
theorem Plain.get?_below {tree : Tree} (plain : tree.Plain) {place : Place}
    (absent : tree.get? place = none) (names : List String) : tree.get? (place ++ names) = none :=
  Tree.get?_below plain.housed absent names

/-- Whether the same stands in two trees on the way to a place and below it. -/
structure AgreeBelow (base : Place) (tree other : Tree) : Prop where
  /-- The same stands on the way. -/
  above : ∀ front, front <+: base → tree.get? front = other.get? front
  /-- The same is listed below. -/
  below : tree.nodes.filter (fun entry => base.isPrefixOf entry.1) =
    other.nodes.filter fun entry => base.isPrefixOf entry.1

variable {base : Place} {tree other : Tree}

/-- The same stands at every place below. -/
theorem AgreeBelow.get?_eq (agree : AgreeBelow base tree other) {place : Place}
    (comparable : place <+: base ∨ base <+: place) : tree.get? place = other.get? place := by
  rcases comparable with above | below
  · exact agree.above place above
  · by_cases root : place = []
    · simp [root]
    · have listed (tree : Tree) : tree.get? place =
          find? (tree.nodes.filter fun entry => base.isPrefixOf entry.1) place := by
        rw [find?_filter tree.nodes (fun other => base.isPrefixOf other) place,
          if_pos (List.isPrefixOf_iff_prefix.2 below), get?, if_neg root]
      rw [listed, listed, agree.below]

/-- A node that is put elsewhere is not listed below a place. -/
theorem filter_put {nodes : List (Place × Node)} {place : Place} {node : Node}
    (apart : ¬ base <+: place) :
    (put nodes place node).filter (fun entry => base.isPrefixOf entry.1) =
      nodes.filter fun entry => base.isPrefixOf entry.1 := by
  have passed : base.isPrefixOf place = false := by
    rwa [Bool.eq_false_iff, Ne, List.isPrefixOf_iff_prefix]
  induction nodes with
  | nil => simp [put, passed]
  | cons head rest ih =>
    obtain ⟨first, present⟩ := head
    rw [put]
    split
    · rename_i same
      simp [same, passed]
    · rw [List.filter_cons, List.filter_cons, ih]

/-- A node that is set elsewhere changes nothing on the way to a place or below it. -/
theorem AgreeBelow.set {place : Place} {node : Node} (apart : Apart base place) :
    AgreeBelow base tree (tree.set place node) where
  above front under := by
    have inner : place ≠ [] := by
      rintro rfl
      exact apart.above List.nil_prefix
    rw [get?_set tree place front node inner, if_neg]
    rintro rfl
    exact apart.above under
  below := (filter_put apart.below).symm

/-- A walk down depends only on what stands along its names. -/
theorem walk_congr {through : Bool} {links : Nat} {here : Place} {names : List String}
    (unlinked : tree.Unlinked) (level : Level names)
    (same : ∀ front, front <+: names → tree.get? (here ++ front) = other.get? (here ++ front)) :
    tree.walk through links here names = other.walk through links here names := by
  induction names generalizing here with
  | nil =>
    have stands := same [] (List.prefix_refl [])
    rw [List.append_nil] at stands
    rw [walk, walk, stands]
  | cons name rest ih =>
    obtain ⟨⟨notHere, notUp⟩, levelRest⟩ := level_cons.1 level
    have first := same [name] (by simp)
    rw [walk, walk, if_neg notHere, if_neg notHere, if_neg notUp, if_neg notUp, ← first]
    by_cases long : name.utf8ByteSize > longestName
    · rw [if_pos long, if_pos long]
    · rw [if_neg long, if_neg long]
      cases found : tree.get? (here ++ [name]) with
      | none => rfl
      | some node =>
        cases node with
        | file content => rfl
        | link target => exact absurd found (unlinked _ _)
        | directory =>
          refine ih levelRest fun front above => ?_
          have next := same (name :: front) (by simpa using above)
          rwa [List.append_cons] at next

/-- A path down is located alike where the same stands on the way. -/
theorem locate_eq_of_same {through : Bool} {names : List String} (unlinked : tree.Unlinked)
    (level : Level names) (same : ∀ front, front <+: names → tree.get? front = other.get? front) :
    tree.locate through (.ofNames names) = other.locate through (.ofNames names) := by
  have walked : tree.walk through mostLinks [] names = other.walk through mostLinks [] names :=
    walk_congr unlinked level same
  unfold locate
  rw [show (Path.ofNames names).names = names from rfl, walked]

/-- The content of a file is the same where the same stands on the way. -/
theorem content_eq_of_same {names : List String} (unlinked : tree.Unlinked)
    (level : Level names) (same : ∀ front, front <+: names → tree.get? front = other.get? front) :
    tree.content (.ofNames names) = other.content (.ofNames names) := by
  simp only [Tree.content, node, locate_eq_of_same unlinked level same]

/-- What is listed strictly below a place. -/
def entriesBelow (tree : Tree) (place : Place) : List (Place × Node) :=
  tree.nodes.filter fun (other, _) => place.isPrefixOf other && place ≠ other

/-- Without links below a place nothing has to be looked up to list the directories there. -/
theorem directoriesBelowPlace_eq {place : Place}
    (noLink : ∀ entry ∈ tree.entriesBelow place, ∀ target, entry.2 ≠ .link target) :
    tree.directoriesBelowPlace place = .ok ([] :: (tree.entriesBelow place).filterMap
      fun (other, node) => if node = .directory then some (other.drop place.length) else none) := by
  rw [directoriesBelowPlace, Runs.forM_eq_ok]
  · rfl
  · rintro ⟨other, node⟩ member
    have noLink := noLink _ member
    cases node with
    | link target => exact absurd rfl (noLink target)
    | file content => rfl
    | directory => rfl

/-- The same is listed strictly below a place. -/
theorem entriesBelow_congr (agree : AgreeBelow base tree other) {place : Place}
    (under : base <+: place) : tree.entriesBelow place = other.entriesBelow place := by
  have listed (tree : Tree) : tree.entriesBelow place =
      (tree.nodes.filter fun entry => base.isPrefixOf entry.1).filter
        fun (other, _) => place.isPrefixOf other && place ≠ other := by
    rw [List.filter_filter, entriesBelow]
    refine List.filter_congr fun entry _ => ?_
    by_cases below : place <+: entry.1
    · simp [List.isPrefixOf_iff_prefix.2 below, List.isPrefixOf_iff_prefix.2 (under.trans below)]
    · simp [below]
  rw [listed, listed, agree.below]

section Agree

variable (plain : tree.Plain) (levelBase : Level base) (agree : AgreeBelow base tree other)
include plain levelBase agree

/-- A path below the place is located alike. -/
theorem locate_congr {through : Bool} {names : List String} (level : Level names) :
    tree.locate through (.ofNames (base ++ names)) =
      other.locate through (.ofNames (base ++ names)) := by
  refine locate_eq_of_same plain.toUnlinked (level_append.2 ⟨levelBase, level⟩)
    fun front above => agree.get?_eq ?_
  exact List.prefix_or_prefix_of_prefix above (List.prefix_append base names)

/-- The trees agree on what is a directory. -/
theorem isDirectory_congr {names : List String} (level : Level names) :
    tree.isDirectory (.ofNames (base ++ names)) = other.isDirectory (.ofNames (base ++ names)) := by
  simp only [isDirectory, nodeIs, node, locate_congr plain levelBase agree level]

/-- The trees agree on what is there. -/
theorem isPresent_congr {names : List String} (level : Level names) :
    tree.isPresent (.ofNames (base ++ names)) = other.isPresent (.ofNames (base ++ names)) := by
  simp only [isPresent, nodeIs, node, locate_congr plain levelBase agree level]

/-- The trees agree on what is a file. -/
theorem isFile_congr {names : List String} (level : Level names) :
    tree.isFile (.ofNames (base ++ names)) = other.isFile (.ofNames (base ++ names)) := by
  simp only [isFile, nodeIs, node, locate_congr plain levelBase agree level]

omit plain levelBase in
/-- The same names are listed in a place below. -/
theorem children_congr {place : Place} (under : base <+: place) :
    tree.children place = other.children place := by
  have listed (tree : Tree) : tree.children place =
      (tree.nodes.filter fun entry => base.isPrefixOf entry.1).filterMap
        fun entry => if entry.1.dropLast = place then entry.1.getLast? else none := by
    rw [List.filterMap_filter]
    refine List.filterMap_congr fun entry _ => ?_
    by_cases parent : entry.1.dropLast = place
    · have below : base <+: entry.1 := under.trans (parent ▸ List.dropLast_prefix entry.1)
      simp [parent, List.isPrefixOf_iff_prefix.2 below]
    · simp [parent]
  rw [listed, listed, agree.below]

/-- The trees agree on what directories hold. -/
theorem list_congr {names : List String} (level : Level names) :
    tree.list (.ofNames (base ++ names)) = other.list (.ofNames (base ++ names)) := by
  unfold list
  rw [← locate_congr plain levelBase agree level]
  split
  · rename_i place located
    have here : place = base ++ names := ((locate_eq_ok_iff_stands plain.toUnlinked
      (level_append.2 ⟨levelBase, level⟩)).1 located).1
    exact children_congr agree (here ▸ List.prefix_append base names)
  · rfl

/-- The trees agree on the directories below one. -/
theorem directoriesBelow_congr {names : List String} (level : Level names) :
    tree.directoriesBelow (.ofNames (base ++ names)) =
      other.directoriesBelow (.ofNames (base ++ names)) := by
  unfold directoriesBelow
  rw [← locate_congr plain levelBase agree level]
  split
  · rename_i place located
    have here : place = base ++ names := ((locate_eq_ok_iff_stands plain.toUnlinked
      (level_append.2 ⟨levelBase, level⟩)).1 located).1
    have under : base <+: place := here ▸ List.prefix_append base names
    have noLink (entry : Place × Node) (member : entry ∈ entriesBelow other place) :
        ∀ target, entry.2 ≠ .link target := by
      rw [← entriesBelow_congr agree under] at member
      exact plain.unlinked entry (List.mem_filter.1 member).1
    rw [directoriesBelowPlace_eq noLink, directoriesBelowPlace_eq fun entry member =>
      plain.unlinked entry (List.mem_filter.1 member).1, entriesBelow_congr agree under]
  · rfl

end Agree

/-! ## Going down along a pattern -/

/-- Whether names lead to what a search can go on from or end at. -/
def passes (tree : Tree) (base : Path) (directories atEnd : Bool) (names : List String) :
    Except FileFault Bool :=
  if directories || !atEnd then tree.isDirectory (base / { names })
  else tree.isPresent (base / { names })

/-- The rows of names that a step of a search leads to. -/
def nextRows (tree : Tree) (base : Path) (directories atEnd : Bool) (names : List String) :
    SearchStep → Except FileFault (List (List String))
  | .anyDepth => tree.directoriesBelow (base / { names := names ++ [] })
  | .named name =>
    (tree.passes base directories atEnd (names ++ [name])).map fun there =>
      if there then [[name]] else []
  | .like pattern =>
    ((tree.list (base / { names := names ++ [] })).filterM fun name =>
      if directories || !atEnd then tree.isDirectory (base / { names := names ++ [name] })
      else .ok true).map fun entries =>
        (entries.filter fun name => NamePattern.accepts pattern name.toList).map ([·])

/-- A search takes a step and goes on from every row of names that it leads to. -/
theorem select_cons (tree : Tree) (base : Path) (directories : Bool) (step : SearchStep)
    (rest : List SearchStep) (names : List String) :
    tree.select base directories (step :: rest) names = (do
      let next ← tree.nextRows base directories rest.isEmpty names step
      let found ← next.mapM fun more => tree.select base directories rest (names ++ more)
      return found.flatten) := by
  cases step with
  | anyDepth => rfl
  | named name =>
    simp only [select, nextRows, passes]
    split <;> rename_i kind
    · cases tree.isDirectory (base / { names := names ++ [name] }) <;> rfl
    · cases tree.isPresent (base / { names := names ++ [name] }) <;> rfl
  | like pattern =>
    simp only [select, nextRows, pure, Except.pure]
    generalize (List.filterM _ _ : Except FileFault (List String)) = entries
    cases entries <;> rfl

/-- Whether what a step of a search names is good. -/
def StepAsks (Good : String → Prop) (step : SearchStep) : Prop :=
  ∀ name, step = .named name → Good name

/-- Whether a step of a search does not go up. -/
def StepDown (step : SearchStep) : Prop := ∀ name, step = .named name → Path.IsPlain name

/-- Names below a place lead from the root through that place. -/
theorem ofNames_join (base names : List String) :
    Path.ofNames base / ({ names } : Path) = .ofNames (base ++ names) := rfl

section Names

variable {Good : String → Prop} (named : ∀ entry ∈ tree.nodes, ∀ name ∈ entry.1, Good name)
include named

/-- The names in a directory are names of the tree. -/
theorem good_of_mem_list {path : Path} {name : String} (listed : name ∈ tree.list path) :
    Good name := by
  unfold list at listed
  split at listed
  · obtain ⟨⟨other, node⟩, member, last⟩ := List.mem_filterMap.1 listed
    simp only at last
    split at last
    · exact named _ member name (List.mem_of_getLast? last)
    · cases last
  · cases listed

/-- The directories below another one have names of the tree. -/
theorem good_of_directoriesBelow {path : Path} {rows : List (List String)}
    (listed : tree.directoriesBelow path = .ok rows) : ∀ row ∈ rows, ∀ name ∈ row, Good name := by
  unfold directoriesBelow at listed
  split at listed
  · obtain ⟨_, -, same⟩ := Runs.bind_eq_ok.1 listed
    cases same
    intro row member
    rcases List.mem_cons.1 member with rfl | member
    · simp
    · obtain ⟨⟨other, node⟩, below, same⟩ := List.mem_filterMap.1 member
      simp only at same
      split at same
      · cases same
        intro name inside
        exact named _ (List.mem_filter.1 below).1 name (List.mem_of_mem_drop inside)
      · cases same
  · cases listed
    simp

/-- A step leads to names of the tree, or to the one that it asks for. -/
theorem good_of_nextRows {base : Path} {directories atEnd : Bool} {names : List String}
    {step : SearchStep} {rows : List (List String)} (asks : StepAsks Good step)
    (stepped : tree.nextRows base directories atEnd names step = .ok rows) :
    ∀ row ∈ rows, ∀ name ∈ row, Good name := by
  cases step with
  | anyDepth => exact good_of_directoriesBelow named stepped
  | named name =>
    obtain ⟨there, -, rfl⟩ := Runs.map_eq_ok.1 stepped
    intro row member
    cases there with
    | false => cases member
    | true =>
      rw [List.mem_singleton.1 member]
      simpa using asks name rfl
  | like pattern =>
    obtain ⟨entries, kept, rfl⟩ := Runs.map_eq_ok.1 stepped
    intro row member
    obtain ⟨name, passes, rfl⟩ := List.mem_map.1 member
    have listed := ((Runs.mem_of_filterM kept).1 (List.mem_filter.1 passes).1).1
    simpa using good_of_mem_list named listed

/-- The rows of names that a search gives are of names of the tree and of the pattern. -/
theorem good_of_select {base : Path} {directories : Bool} {steps : List SearchStep}
    {names : List String} {found : List (List String)} (asks : ∀ step ∈ steps, StepAsks Good step)
    (sofar : ∀ name ∈ names, Good name)
    (selected : tree.select base directories steps names = .ok found) :
    ∀ row ∈ found, ∀ name ∈ row, Good name := by
  induction steps generalizing names found with
  | nil =>
    cases selected
    simpa using sofar
  | cons step rest ih =>
    obtain ⟨first, others⟩ := List.forall_mem_cons.1 asks
    rw [select_cons] at selected
    obtain ⟨next, stepped, later⟩ := Runs.bind_eq_ok.1 selected
    obtain ⟨rows, each, same⟩ := Runs.bind_eq_ok.1 later
    cases same
    intro row member
    obtain ⟨part, listed, inside⟩ := List.mem_flatten.1 member
    obtain ⟨more, here, ran⟩ := (Runs.mem_of_mapM each).1 listed
    have deeper := good_of_nextRows named first stepped more here
    exact ih others (List.forall_mem_append.2 ⟨sofar, deeper⟩) ran row inside

end Names

section Agree

variable (plain : tree.Plain) (levelBase : Level base) (agree : AgreeBelow base tree other)
include plain levelBase agree

/-- A step down leads to the same in trees that agree. -/
theorem nextRows_congr {directories atEnd : Bool} {names : List String} {step : SearchStep}
    (sofar : ∀ name ∈ names, Path.IsPlain name) (down : StepDown step) :
    tree.nextRows (.ofNames base) directories atEnd names step =
      other.nextRows (.ofNames base) directories atEnd names step := by
  have level := level_of_plain sofar
  have levelNext {name : String} (plain : Path.IsPlain name) : Level (names ++ [name]) :=
    level_of_plain (List.forall_mem_append.2 ⟨sofar, by simpa using plain⟩)
  cases step with
  | anyDepth =>
    exact directoriesBelow_congr plain levelBase agree (level_append.2 ⟨level, by simp [Level]⟩)
  | named name =>
    have levelName := levelNext (down name rfl)
    simp only [nextRows, passes, ofNames_join]
    rw [isDirectory_congr plain levelBase agree levelName,
      isPresent_congr plain levelBase agree levelName]
  | like pattern =>
    simp only [nextRows, ofNames_join, List.append_nil]
    rw [← list_congr plain levelBase agree level]
    congr 1
    refine Runs.filterM_congr fun name listed => ?_
    rw [isDirectory_congr plain levelBase agree (levelNext (good_of_mem_list plain.named listed))]

/-- A search down goes the same ways in trees that agree. -/
theorem select_congr {directories : Bool} {steps : List SearchStep} {names : List String}
    (down : ∀ step ∈ steps, StepDown step) (sofar : ∀ name ∈ names, Path.IsPlain name) :
    tree.select (.ofNames base) directories steps names =
      other.select (.ofNames base) directories steps names := by
  induction steps generalizing names with
  | nil => rfl
  | cons step rest ih =>
    obtain ⟨first, others⟩ := List.forall_mem_cons.1 down
    rw [select_cons, select_cons, ← nextRows_congr plain levelBase agree sofar first]
    cases stepped : tree.nextRows (.ofNames base) directories rest.isEmpty names step with
    | error fault => rfl
    | ok rows =>
      have same : (rows.mapM fun more =>
            tree.select (.ofNames base) directories rest (names ++ more)) =
          rows.mapM fun more => other.select (.ofNames base) directories rest (names ++ more) :=
        Runs.mapM_congr fun more member => ih others (List.forall_mem_append.2
          ⟨sofar, good_of_nextRows plain.named first stepped more member⟩)
      exact congrArg (Except.bind · fun found => .ok found.flatten) same

end Agree

/-! ## The whole search -/

/-- Whether a pattern does not go up. -/
def GoesDown (pattern : String) : Prop := ".." ∉ (Path.ofString pattern).names

/-- The steps of a pattern ask for its names. -/
theorem asks_of_read {pattern : String} {read : SearchPattern} {Good : String → Prop}
    (good : ∀ name ∈ (Path.ofString pattern).names, Good name)
    (ran : SearchPattern.read pattern = .ok read) : ∀ step ∈ read.steps, StepAsks Good step := by
  simp only [SearchPattern.read] at ran
  split at ran
  · cases ran
  · split at ran
    · split at ran <;> cases ran
    · obtain ⟨steps, each, rfl⟩ := Runs.map_eq_ok.1 ran
      rintro step member name rfl
      obtain ⟨written, listed, made⟩ := (Runs.mem_of_mapM each).1 member
      have same : name = written := by
        simp only [SearchStep.read] at made
        split at made
        · cases made
        · split at made
          · cases made
          · split at made
            · cases made
            · cases made
              rfl
      rw [same]
      exact good written listed

/-- The names of a pattern that does not go up do not either. -/
theorem GoesDown.isPlain {pattern name : String} (down : GoesDown pattern)
    (member : name ∈ (Path.ofString pattern).names) : Path.IsPlain name :=
  ⟨Path.isProper_of_mem_ofString member, fun up => down (up ▸ member)⟩

/-- The steps of a pattern that does not go up do not either. -/
theorem stepDown_of_read {pattern : String} {read : SearchPattern} (down : GoesDown pattern)
    (ran : SearchPattern.read pattern = .ok read) : ∀ step ∈ read.steps, StepDown step :=
  asks_of_read (fun _ member => down.isPlain member) ran

/-- The rows of names that lead to the files of a search. -/
def findRows (tree : Tree) (path : Path) (read : SearchPattern) :
    Except FileFault (List (List String)) := do
  if ← tree.isDirectory path then
    let selected ← tree.select path read.directories read.steps []
    selected.filterM fun names => tree.isFile (path / { names })
  else return []

/-- A search reads its pattern, and gives what it finds in ascending order. -/
theorem search_eq (tree : Tree) (path : Path) (pattern : String) :
    tree.search path pattern =
      if Text.isAllBlank pattern then .ok []
      else do
        let read ← SearchPattern.read pattern
        let found ← (tree.findRows path read).mapError .file
        return ((found.map fun names => ({ names } : Path).toString).eraseDups.mergeSort
          fun one other => decide (one ≤ other)) :=
  rfl

/-- The rows of names that are found lead to files, and are of names of the tree and of the
pattern. -/
theorem good_of_findRows {path : Path} {read : SearchPattern} {rows : List (List String)}
    {Good : String → Prop} (named : ∀ entry ∈ tree.nodes, ∀ name ∈ entry.1, Good name)
    (asks : ∀ step ∈ read.steps, StepAsks Good step)
    (found : tree.findRows path read = .ok rows) {names : List String} (member : names ∈ rows) :
    names ≠ [] ∧ (∀ name ∈ names, Good name) ∧ tree.isFile (path / { names }) = .ok true := by
  obtain ⟨entered, isDirectory, later⟩ := Runs.bind_eq_ok.1 found
  cases entered with
  | false =>
    cases later
    cases member
  | true =>
    obtain ⟨selected, selects, kept⟩ := Runs.bind_eq_ok.1 later
    obtain ⟨listed, isFile⟩ := (Runs.mem_of_filterM kept).1 member
    refine ⟨?_, good_of_select named asks (by simp) selects names listed, isFile⟩
    rintro rfl
    rw [show path / ({ names := [] } : Path) = path by simp [HDiv.hDiv, Div.div, Path.join,
      Path.isAbsolute], isFile_eq_true_iff] at isFile
    obtain ⟨content, read⟩ := isFile
    rw [content_eq_ok_iff, isDirectory_eq_true_iff.1 isDirectory] at read
    cases read

/-- The same files are found in trees that agree. -/
theorem findRows_congr {read : SearchPattern} (plain : tree.Plain) (levelBase : Level base)
    (agree : AgreeBelow base tree other) (down : ∀ step ∈ read.steps, StepDown step) :
    tree.findRows (.ofNames base) read = other.findRows (.ofNames base) read := by
  have entered : tree.isDirectory (.ofNames (base ++ [])) =
      other.isDirectory (.ofNames (base ++ [])) :=
    isDirectory_congr plain levelBase agree (by simp [Level])
  rw [List.append_nil] at entered
  have ways : tree.select (.ofNames base) read.directories read.steps [] =
      other.select (.ofNames base) read.directories read.steps [] :=
    select_congr plain levelBase agree down (by simp)
  rw [findRows, findRows, ← entered, ← ways]
  refine congrArg (Except.bind _) (funext fun isDirectory => ?_)
  cases isDirectory with
  | false => rfl
  | true =>
    cases selects : tree.select (.ofNames base) read.directories read.steps [] with
    | error fault => rfl
    | ok selected =>
      refine Runs.filterM_congr fun names member => ?_
      exact isFile_congr plain levelBase agree
        (level_of_plain (good_of_select plain.named down (by simp) selects names member))

/-- A search finds the same in trees that agree. -/
theorem search_congr {pattern : String} (plain : tree.Plain) (levelBase : Level base)
    (agree : AgreeBelow base tree other) (down : GoesDown pattern) :
    tree.search (.ofNames base) pattern = other.search (.ofNames base) pattern := by
  rw [search_eq, search_eq]
  cases ran : SearchPattern.read pattern with
  | error fault => rfl
  | ok read =>
    simp only [bind, Except.bind]
    rw [findRows_congr plain levelBase agree (stepDown_of_read down ran)]

/-- What a search finds are files, by names of the tree and of the pattern. -/
theorem good_of_mem_search {pattern relative : String} {found : List String} {path : Path}
    {Good : String → Prop} (named : ∀ entry ∈ tree.nodes, ∀ name ∈ entry.1, Good name)
    (good : ∀ name ∈ (Path.ofString pattern).names, Good name)
    (searched : tree.search path pattern = .ok found) (member : relative ∈ found) :
    ∃ names, relative = ({ names } : Path).toString ∧ names ≠ [] ∧
      (∀ name ∈ names, Good name) ∧ tree.isFile (path / { names }) = .ok true := by
  rw [search_eq] at searched
  split at searched
  · cases searched
    cases member
  · obtain ⟨read, ran, later⟩ := Runs.bind_eq_ok.1 searched
    obtain ⟨rows, finds, same⟩ := Runs.bind_eq_ok.1 later
    cases same
    rw [List.mem_mergeSort, List.mem_eraseDups] at member
    obtain ⟨names, listed, rfl⟩ := List.mem_map.1 member
    exact ⟨names, rfl, good_of_findRows named (asks_of_read good ran)
      (Runs.mapError_eq_ok.1 finds) listed⟩

/-- What a search finds are files, by names that can be met in directories. -/
theorem exists_names_of_mem_search {pattern relative : String} {found : List String}
    {path : Path} (plain : tree.Plain) (down : GoesDown pattern)
    (searched : tree.search path pattern = .ok found) (member : relative ∈ found) :
    ∃ names, relative = ({ names } : Path).toString ∧ names ≠ [] ∧
      (∀ name ∈ names, Path.IsPlain name) ∧ tree.isFile (path / { names }) = .ok true :=
  good_of_mem_search plain.named (fun _ inside => down.isPlain inside) searched member

/-- A search that finds rows of names in ascending order, each once, gives them as they are. -/
theorem search_of_rows {path : Path} {pattern : String} {read : SearchPattern} {texts : List String}
    (rows : List (List String)) (named : Text.isAllBlank pattern = false)
    (ran : SearchPattern.read pattern = .ok read) (found : tree.findRows path read = .ok rows)
    (told : (rows.map fun names => ({ names } : Path).toString) = texts)
    (distinct : texts.Nodup) (ascending : texts.Pairwise fun one other => decide (one ≤ other)) :
    tree.search path pattern = .ok texts := by
  rw [search_eq, named, ran]
  simp only [bind, Except.bind, found, Except.mapError, told]
  rw [Keyed.eraseDups_of_nodup distinct, List.mergeSort_of_pairwise ascending]
  rfl

/-- A search that leads along one row of names finds that. -/
theorem search_of_findRows {path : Path} {pattern : String} {read : SearchPattern}
    (names : List String) (named : Text.isAllBlank pattern = false)
    (ran : SearchPattern.read pattern = .ok read) (rows : tree.findRows path read = .ok [names]) :
    tree.search path pattern = .ok [({ names } : Path).toString] :=
  search_of_rows [names] named ran rows rfl (List.nodup_singleton _) (List.pairwise_singleton _ _)

/-- A pattern that is the name of a file finds that file. -/
theorem search_of_stands {name : String} {content : Text.Bytes} (unlinked : tree.Unlinked)
    (level : Level (base ++ [name])) (named : Text.isAllBlank name = false)
    (read : SearchPattern.read name = .ok ⟨[.named name], false⟩)
    (stands : tree.Stands (.ofNames (base ++ [name])) (some (.file content))) :
    tree.search (.ofNames base) name = .ok [name] := by
  have entered : tree.isDirectory (.ofNames base) = .ok true :=
    isDirectory_eq_true_iff.2 ((node_eq_ok_iff_stands unlinked (level_append.1 level).1).2
      (stands.directory_above (List.prefix_append base [name]) (by simp)))
  have found : tree.node (.ofNames (base ++ [name])) = .ok (.file content) :=
    (node_eq_ok_iff_stands unlinked level).2 stands
  have present : tree.isPresent (.ofNames (base ++ [name])) = .ok true :=
    nodeIs_eq_true_iff.2 ⟨_, found, rfl⟩
  have isFile : tree.isFile (.ofNames (base ++ [name])) = .ok true :=
    nodeIs_eq_true_iff.2 ⟨_, found, rfl⟩
  have next : tree.nextRows (.ofNames base) false true [] (.named name) = .ok [[name]] := by
    simp only [nextRows, passes, List.nil_append, ofNames_join, present]
    rfl
  have selected : tree.select (.ofNames base) false [.named name] [] = .ok [[name]] := by
    rw [select_cons, List.isEmpty_nil, next]
    rfl
  have kept : [[name]].filterM (fun names => tree.isFile (.ofNames base / { names })) =
      .ok [[name]] := by
    simp only [List.filterM, List.filterAuxM, ofNames_join, isFile]
    rfl
  have rows : tree.findRows (.ofNames base) ⟨[.named name], false⟩ = .ok [[name]] := by
    rw [findRows, entered]
    simp only [bind, Except.bind, if_true, selected]
    exact kept
  have shown : (({ names := [name] } : Path)).toString = name := by
    simp [Path.toString, Anchor.text]
  rw [search_of_findRows [name] named read rows, shown]

end Tree

end LintBench
