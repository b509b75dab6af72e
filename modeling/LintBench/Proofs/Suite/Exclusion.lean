import LintBench.Reconciliation
import LintBench.Suite.Config
import LintBench.Proofs.Files.PathText
import LintBench.Proofs.Files.Resolving
import LintBench.Proofs.Runs
import LintBench.Proofs.Suite.Housing

/-!
# Directories that are left out

A path is left out if one of the left out directories is above it. The directories
are told by texts that end in a slash, and a path is held against them letter by
letter; yet this tells names apart, since no name has a slash in it. Only the root is
told by a slash alone, which is its path as well: it is left out by itself, as no
other directory is.
-/

namespace LintBench

namespace Path

/-- Whether a directory is above a path: the way to the path leads on from it. -/
def IsAbove (directory path : Path) : Prop :=
  directory.names <+: path.names ∧ directory.names ≠ path.names

/-- No name has a slash in it. -/
def Whole (names : List String) : Prop := ∀ name ∈ names, '/' ∉ name.toList

instance : DecidablePred Whole := fun names =>
  inferInstanceAs (Decidable (∀ name ∈ names, '/' ∉ name.toList))

/-- Two rows of names are whole if both are. -/
theorem whole_append {front rest : List String} : Whole (front ++ rest) ↔ Whole front ∧ Whole rest :=
  List.forall_mem_append

/-- Names among whole ones are whole. -/
theorem Whole.subset {names others : List String} (whole : Whole names) (within : others ⊆ names) :
    Whole others :=
  fun name member => whole name (within member)

/-- The names of a path that was read are whole. -/
theorem whole_ofString (text : String) : Whole (ofString text).names :=
  fun _ member => (isProper_of_mem_ofString member).whole

/-- The names on the way along two paths are whole if those of the paths are. -/
theorem Whole.join {base next : Path} (whole : Whole base.names) (further : Whole next.names) :
    Whole (base / next).names := by
  change Whole (base.join next).names
  unfold Path.join
  by_cases absolute : next.isAbsolute = true
  · rw [if_pos absolute]
    exact further
  · rw [if_neg absolute]
    exact whole_append.2 ⟨whole, further⟩

end Path

/-! ## Texts that end in a slash -/

/-- The letters of a directory's path with a slash at its end. -/
theorem Config.toList_closePath {names : List String} (inner : names ≠ []) :
    (closePath (.ofNames names)).toList =
      '/' :: (['/'].intercalate (names.map String.toList) ++ ['/']) := by
  have notRoot : (Path.ofNames names).names.isEmpty = false := by
    rwa [Path.ofNames, List.isEmpty_eq_false_iff]
  have slash : "/".toList = ['/'] := rfl
  rw [closePath, notRoot, if_neg Bool.false_ne_true, String.toList_append,
    Path.toList_toString_ofNames, slash, List.cons_append]

open Config LintBench.Path in
/-- A path starts with the text of a directory exactly if the directory is above it, or if both are
the root. -/
theorem startsWith_closePath_iff {directory names : List String} (wholeDirectory : Whole directory)
    (whole : Whole names) :
    Text.startsWith (Path.ofNames names).toString (closePath (.ofNames directory)) = true ↔
      (Path.ofNames directory).IsAbove (.ofNames names) ∨ directory = [] ∧ names = [] := by
  rw [Text.startsWith, List.isPrefixOf_iff_prefix, toList_toString_ofNames]
  by_cases inner : directory = []
  · have slash : (closePath (.ofNames [])).toList = ['/'] := by decide
    rw [inner, slash]
    have always : ['/'] <+: '/' :: ['/'].intercalate (names.map String.toList) :=
      List.prefix_append ['/'] _
    by_cases root : names = []
    · exact iff_of_true always (.inr ⟨rfl, root⟩)
    · exact iff_of_true always (.inl ⟨List.nil_prefix, Ne.symm root⟩)
  · have some : directory.map String.toList ≠ [] := by
      rwa [Ne, List.map_eq_nil_iff]
    have letters {others : List String} (wholeOthers : Whole others) :
        ∀ piece ∈ others.map String.toList, '/' ∉ piece := by
      intro piece member
      obtain ⟨name, listed, same⟩ := List.mem_map.1 member
      rw [← same]
      exact wholeOthers name listed
    have distinct : Function.Injective String.toList := fun _ _ => String.toList_injective
    rw [toList_closePath inner, List.cons_prefix_cons,
      Text.closed_prefix_iff some (letters wholeDirectory) (letters whole),
      List.prefix_map_iff_of_injective distinct, Ne, List.map_inj_right distinct]
    simp [inner, IsAbove, Path.ofNames]

/-! ## The names of resolved paths -/

namespace Tree

open LintBench.Path (Whole whole_append)

/-- The steps of a link have no slashes in them. -/
theorem whole_linkSteps (target : String) : Whole (linkSteps target) := by
  apply whole_append.2
  constructor
  · intro name member
    obtain ⟨piece, -⟩ := List.mem_filter.1 member
    obtain ⟨letters, cut, same⟩ := List.mem_map.1 piece
    rw [← same, String.toList_ofList]
    exact Text.not_mem_of_mem_splitOn cut
  · by_cases slashed : (Text.pieces '/' target).getLast? = some ""
    · rw [if_pos slashed]
      decide
    · rw [if_neg slashed]
      exact List.forall_mem_nil _

/-- The place that names lead to has no other names than these. -/
theorem settle_subset (names : List String) : settle names ⊆ names := by
  have along (start : Place) : (names.foldl (fun place name =>
      if name = "." then place else if name = ".." then place.dropLast else place ++ [name]) start) ⊆
        start ++ names := by
    induction names generalizing start with
    | nil => simp
    | cons name rest ih =>
      rw [List.foldl_cons]
      intro other member
      have below := ih _ member
      by_cases stays : name = "."
      · rw [if_pos stays] at below
        simp only [List.mem_append, List.mem_cons] at below ⊢
        tauto
      · by_cases up : name = ".."
        · rw [if_neg stays, if_pos up] at below
          have dropped := List.dropLast_subset start
          simp only [List.mem_append, List.mem_cons] at below ⊢
          exact below.imp (fun inside => dropped inside) .inr
        · rw [if_neg stays, if_neg up] at below
          simpa only [List.append_assoc, List.singleton_append] using below
  exact along []

/-- Names without slashes lead to a place whose names have none, links on the way included. -/
theorem whole_of_follow {tree : Tree} {strict : Bool} {room : Nat} {fresh : List Place}
    {resolved : List (Place × Place)} {here place : Place} {turns : List Turn}
    (known : ∀ entry ∈ resolved, Whole entry.2) (start : Whole here)
    (ahead : Whole (namesAhead turns))
    (followed : tree.follow strict room fresh resolved here turns = .ok place) : Whole place := by
  have own {name : String} {rest : List Turn} (ahead : Whole (namesAhead (.name name :: rest))) :
      Whole [name] := ahead.subset (List.cons_subset.2 ⟨List.mem_cons_self, List.nil_subset _⟩)
  have later {name : String} {rest : List Turn} (ahead : Whole (namesAhead (.name name :: rest))) :
      Whole (namesAhead rest) := ahead.subset (List.subset_cons_self _ _)
  fun_induction follow tree strict room fresh resolved here turns with
  | case1 =>
    cases followed
    exact start
  | case2 _ _ _ _ _ _ ih => exact ih (List.forall_mem_cons.2 ⟨start, known⟩) start ahead followed
  | case3 _ _ _ _ _ ih => exact ih known start (later ahead) followed
  | case4 _ _ _ _ _ _ ih =>
    exact ih known (start.subset (List.dropLast_subset _)) (later ahead) followed
  | case5 => cases followed
  | case6 _ _ _ _ _ _ _ _ _ _ _ _ ih =>
    exact ih known (whole_append.2 ⟨start, own ahead⟩) (later ahead) followed
  | case7 _ _ _ _ _ _ _ _ next _ _ there left ih =>
    obtain ⟨front, rest, split, -⟩ := List.lookup_eq_some_iff.1 left
    have listed : (next, there) ∈ front ++ (next, there) :: rest := by simp
    rw [← split] at listed
    exact ih known (known _ listed) (later ahead) followed
  | case8 => cases followed
  | case9 _ _ here _ _ _ _ _ target _ _ _ _ ih =>
    have startOfLink : Whole (linkStart target here) := by
      unfold linkStart
      by_cases absolute : target.toList.head? = some '/'
      · rw [if_pos absolute]
        exact List.forall_mem_nil _
      · rw [if_neg absolute]
        exact start
    apply ih known startOfLink _ followed
    rw [namesAhead_append, namesAhead_map, namesAhead_close]
    exact whole_append.2 ⟨whole_linkSteps target, later ahead⟩
  | case10 => cases followed
  | case11 =>
    cases followed
    have all := whole_append.2 ⟨whole_append.2 ⟨start, own ahead⟩, later ahead⟩
    exact all.subset (settle_subset _)
  | case12 _ _ _ _ _ _ _ _ _ _ _ _ ih =>
    exact ih known (whole_append.2 ⟨start, own ahead⟩) (later ahead) followed

/-- The names of a resolved path have no slashes in them. -/
theorem whole_of_resolveLenient {tree : Tree} {path resolved : Path} (whole : Whole path.names)
    (found : tree.resolveLenient path = .ok resolved) :
    ∃ names, resolved = .ofNames names ∧ Whole names := by
  obtain ⟨place, followed, same⟩ := follow_of_resolveLenient found
  have ahead : Whole (namesAhead (path.names.map .name)) := by
    rw [namesAhead_map]
    exact whole
  exact ⟨place, same,
    whole_of_follow (List.forall_mem_nil _) (List.forall_mem_nil _) ahead followed⟩

end Tree

/-! ## What a configuration leaves out -/

namespace Config

/-- An entry that is not blank leaves the directory out that it is resolved to, from the directory
of the fixtures. -/
structure LeavesOut (config : Config) (tree : Tree) (entry : String) (directory : Path) : Prop where
  /-- The entry is listed. -/
  listed : entry ∈ config.excluded
  /-- It is not blank. -/
  named : Text.isAllBlank entry = false
  /-- It is resolved to the directory. -/
  resolved : ∃ codeDir, config.codeDir tree = .ok codeDir ∧
    tree.resolveLenient (codeDir / Path.ofString entry) = .ok directory

/-- The entries that are not blank. -/
def namedEntries (config : Config) : List String :=
  config.excluded.filter fun entry => !Text.isAllBlank entry

section

variable {config : Config} {tree : Tree} {excluded : List String} {entry : String}

/-- The entries that name something are those that are not blank. -/
theorem mem_namedEntries :
    entry ∈ config.namedEntries ↔ entry ∈ config.excluded ∧ Text.isAllBlank entry = false := by
  rw [namedEntries, List.mem_filter, Bool.not_eq_true']

/-- Without such entries nothing is left out. -/
theorem excludedPaths_of_none (none : config.namedEntries = []) :
    config.excludedPaths tree = .ok [] := by
  rw [namedEntries] at none
  unfold excludedPaths
  rw [none]
  rfl

/-- Where there are such entries the directory of the fixtures is looked up, and each of them is
resolved from there. -/
theorem excludedPaths_of_some (some : config.namedEntries ≠ []) :
    config.excludedPaths tree = config.codeDir tree >>= fun codeDir =>
      config.namedEntries.mapM fun entry =>
        (tree.resolveLenient (codeDir / Path.ofString entry)).map closePath := by
  have inhabited := List.isEmpty_eq_false_iff.2 some
  rw [namedEntries] at inhabited
  unfold excludedPaths
  simp only [inhabited, Bool.false_eq_true, if_false]
  rfl

/-- If one entry is not blank, then one directory is left out. -/
theorem excludedPaths_of_single {codeDir directory : Path} (single : config.namedEntries = [entry])
    (coded : config.codeDir tree = .ok codeDir)
    (resolved : tree.resolveLenient (codeDir / Path.ofString entry) = .ok directory) :
    config.excludedPaths tree = .ok [closePath directory] := by
  have some : config.namedEntries ≠ [] := by
    rw [single]
    exact List.cons_ne_nil entry []
  have shown : (tree.resolveLenient (codeDir / Path.ofString entry)).map closePath =
      .ok (closePath directory) := Runs.map_eq_ok.2 ⟨directory, resolved, rfl⟩
  rw [excludedPaths_of_some some, coded, single]
  exact Runs.mapM_eq_ok_iff.2 (.cons shown .nil)

/-- The texts that paths are held against are those of the directories that are left out. -/
theorem mem_excludedPaths (ran : config.excludedPaths tree = .ok excluded) {text : String} :
    text ∈ excluded ↔
      ∃ entry directory, config.LeavesOut tree entry directory ∧ closePath directory = text := by
  by_cases none : config.namedEntries = []
  · rw [excludedPaths_of_none none] at ran
    cases ran
    apply iff_of_false List.not_mem_nil
    rintro ⟨entry, directory, leaves, -⟩
    have member := mem_namedEntries.2 ⟨leaves.listed, leaves.named⟩
    rw [none] at member
    cases member
  · rw [excludedPaths_of_some none] at ran
    obtain ⟨codeDir, coded, each⟩ := Runs.bind_eq_ok.1 ran
    rw [Runs.mem_of_mapM each]
    constructor
    · rintro ⟨entry, member, shown⟩
      obtain ⟨directory, resolved, same⟩ := Runs.map_eq_ok.1 shown
      obtain ⟨listed, named⟩ := mem_namedEntries.1 member
      exact ⟨entry, directory, ⟨listed, named, codeDir, coded, resolved⟩, same⟩
    · rintro ⟨entry, directory, ⟨listed, named, own, codedOwn, resolved⟩, same⟩
      rw [coded] at codedOwn
      cases codedOwn
      exact ⟨entry, mem_namedEntries.2 ⟨listed, named⟩, Runs.map_eq_ok.2 ⟨directory, resolved, same⟩⟩

/-- The directories that are left out are told exactly if each entry that is not blank is resolved.
-/
theorem exists_excludedPaths_iff :
    (∃ excluded, config.excludedPaths tree = .ok excluded) ↔
      ∀ entry ∈ config.excluded, Text.isAllBlank entry = false →
        ∃ directory, config.LeavesOut tree entry directory := by
  constructor
  · rintro ⟨excluded, ran⟩ entry listed named
    have member := mem_namedEntries.2 ⟨listed, named⟩
    rw [excludedPaths_of_some (List.ne_nil_of_mem member)] at ran
    obtain ⟨codeDir, coded, each⟩ := Runs.bind_eq_ok.1 ran
    obtain ⟨text, shown⟩ := Runs.exists_of_mapM each entry member
    obtain ⟨directory, resolved, -⟩ := Runs.map_eq_ok.1 shown
    exact ⟨directory, listed, named, codeDir, coded, resolved⟩
  · intro each
    have leaves (entry : String) (member : entry ∈ config.namedEntries) :
        ∃ directory, config.LeavesOut tree entry directory :=
      each entry (mem_namedEntries.1 member).1 (mem_namedEntries.1 member).2
    by_cases none : config.namedEntries = []
    · exact ⟨[], excludedPaths_of_none none⟩
    · obtain ⟨first, member⟩ := List.exists_mem_of_ne_nil _ none
      obtain ⟨_, firstLeaves⟩ := leaves first member
      obtain ⟨codeDir, coded, -⟩ := firstLeaves.resolved
      rw [excludedPaths_of_some none, coded]
      apply Runs.exists_mapM
      intro entry listed
      obtain ⟨directory, entryLeaves⟩ := leaves entry listed
      obtain ⟨own, codedOwn, resolved⟩ := entryLeaves.resolved
      rw [coded] at codedOwn
      cases codedOwn
      exact ⟨closePath directory, Runs.map_eq_ok.2 ⟨directory, resolved, rfl⟩⟩

/-- A directory that is left out is told by names without slashes. -/
theorem LeavesOut.whole {directory : Path} (leaves : config.LeavesOut tree entry directory)
    (whole : Path.Whole config.root.names) :
    ∃ names, directory = .ofNames names ∧ Path.Whole names := by
  obtain ⟨codeDir, coded, resolved⟩ := leaves.resolved
  obtain ⟨codeNames, rfl, wholeCode⟩ :=
    Tree.whole_of_resolveLenient (whole.join (Path.whole_ofString _)) coded
  have wholeEntry := Path.whole_ofString entry
  exact Tree.whole_of_resolveLenient (Path.Whole.join wholeCode wholeEntry) resolved

end

end Config

/-- The directories that are left out are told exactly if each entry that is not blank is resolved.
Then a path is left out exactly if the directory of such an entry is above it, or if the directory
and the path are both the root. -/
theorem left_out_iff_below_unless_root {config : Config} {tree : Tree}
    (whole : Path.Whole config.root.names) :
    ((∃ excluded, config.excludedPaths tree = .ok excluded) ↔
      ∀ entry ∈ config.excluded, Text.isAllBlank entry = false →
        ∃ directory, config.LeavesOut tree entry directory) ∧
    ∀ excluded, config.excludedPaths tree = .ok excluded → ∀ names, Path.Whole names →
      (isExcluded excluded (Path.ofNames names).toString = true ↔
        ∃ entry directory, config.LeavesOut tree entry directory ∧
          (directory.IsAbove (.ofNames names) ∨ directory.names = [] ∧ names = [])) := by
  refine ⟨Config.exists_excludedPaths_iff, fun excluded ran names wholeNames => ?_⟩
  rw [isExcluded, List.any_eq_true]
  constructor
  · rintro ⟨text, member, starts⟩
    obtain ⟨entry, directory, leaves, same⟩ := (Config.mem_excludedPaths ran).1 member
    obtain ⟨directoryNames, rfl, wholeDirectory⟩ := leaves.whole whole
    rw [← same] at starts
    exact ⟨entry, _, leaves, (startsWith_closePath_iff wholeDirectory wholeNames).1 starts⟩
  · rintro ⟨entry, directory, leaves, above⟩
    obtain ⟨directoryNames, rfl, wholeDirectory⟩ := leaves.whole whole
    refine ⟨_, (Config.mem_excludedPaths ran).2 ⟨entry, _, leaves, rfl⟩, ?_⟩
    exact (startsWith_closePath_iff wholeDirectory wholeNames).2 above

/-! ## A suite with a vendored directory -/

namespace Vendored

/-- A directory of fixtures with two directories in it. -/
def tree : Tree :=
  { nodes := [(["code"], .directory), (["code", "lib"], .directory), (["code", "vendor"], .directory)] }

/-- A suite of these fixtures. -/
def suite (excluded : List String) : Config := { root := .ofNames ["code"], excluded }

/-- The directory has the fixtures of each of the suites. -/
theorem houses (excluded : List String) : tree.Houses (suite excluded) ["code"] := by
  obtain ⟨unlinked, level, named, directory⟩ : tree.Houses (suite []) ["code"] := by decide
  exact ⟨unlinked, level, named, directory⟩

/-- There are no links. -/
theorem unlinked : tree.Unlinked := (houses []).unlinked

/-- The directory that the way goes through stands. -/
theorem stands_lib : tree.Stands (.ofNames ["code", "lib"]) (some .directory) := by decide

/-- The directory that is left out stands. -/
theorem stands_vendor : tree.Stands (.ofNames ["code", "vendor"]) (some .directory) := by decide

/-- The way through the one directory leads to the other. -/
theorem resolveLenient_vendor :
    tree.resolveLenient (.ofNames ["code"] / Path.ofString "lib/../vendor") =
      .ok (.ofNames ["code", "vendor"]) := by
  have followed : tree.follow false Tree.deepestLinks tree.links [] []
      (["code", "lib", "..", "vendor"].map .name) = .ok ["code", "vendor"] :=
    calc tree.follow false Tree.deepestLinks tree.links [] []
          (["code", "lib", "..", "vendor"].map .name)
      _ = tree.follow false Tree.deepestLinks tree.links [] ["code", "lib"]
          [.name "..", .name "vendor"] :=
        Tree.follow_of_stands [] unlinked (by decide) stands_lib [.name "..", .name "vendor"]
      _ = tree.follow false Tree.deepestLinks tree.links [] ["code"] [.name "vendor"] := by
        rw [Tree.follow, if_neg (by decide), if_pos rfl]
        rfl
      _ = tree.follow false Tree.deepestLinks tree.links [] ["code", "vendor"] [] :=
        Tree.follow_of_stands ["code"] unlinked (by decide) stands_vendor []
      _ = .ok ["code", "vendor"] := by rw [Tree.follow]
  have names : (Path.ofNames ["code"] / Path.ofString "lib/../vendor").names =
      ["code", "lib", "..", "vendor"] := by decide
  have resolved : tree.resolve false (.ofNames ["code"] / Path.ofString "lib/../vendor") =
      .ok (.ofNames ["code", "vendor"]) := by
    rw [Tree.resolve, names, followed]
    rfl
  have located : tree.locate true (.ofNames ["code", "vendor"]) = .ok ⟨_, some .directory⟩ :=
    (Tree.locate_eq_ok_iff_stands unlinked (by decide)).2 ⟨rfl, stands_vendor⟩
  rw [Tree.resolveLenient, resolved]
  simp only [bind, Except.bind, located]
  rfl

/-- The one directory is left out by way of the other. -/
theorem excludedPaths_vendor :
    (suite ["lib/../vendor", " "]).excludedPaths tree = .ok ["/code/vendor/"] :=
  Config.excludedPaths_of_single (by decide) (houses _).codeDir_eq resolveLenient_vendor

/-- The root is told by a slash alone. -/
theorem excludedPaths_root : (suite ["/"]).excludedPaths tree = .ok ["/"] := by
  have stands : tree.Stands (.ofNames []) (some .directory) := by decide
  have root : tree.resolveLenient (.ofNames ["code"] / Path.ofString "/") = .ok (.ofNames []) :=
    Tree.resolveLenient_of_stands unlinked (by decide) stands
  exact Config.excludedPaths_of_single (by decide) (houses _).codeDir_eq root

end Vendored

open Vendored in
/-- What lies under the directory is left out, and what lies beside it under a longer name is not.
-/
theorem left_out_iff_below_unless_root_vendored :
    Path.Whole (suite ["lib/../vendor", " "]).root.names ∧
      (suite ["lib/../vendor", " "]).excludedPaths tree = .ok ["/code/vendor/"] ∧
      Path.Whole ["code", "vendor", "a.go"] ∧
      (isExcluded ["/code/vendor/"] (Path.ofNames ["code", "vendor", "a.go"]).toString = true ↔
        ∃ entry directory, (suite ["lib/../vendor", " "]).LeavesOut tree entry directory ∧
          (directory.IsAbove (.ofNames ["code", "vendor", "a.go"]) ∨
            directory.names = [] ∧ ["code", "vendor", "a.go"] = [])) ∧
      Path.Whole ["code", "vendored.go"] ∧
      (isExcluded ["/code/vendor/"] (Path.ofNames ["code", "vendored.go"]).toString = true ↔
        ∃ entry directory, (suite ["lib/../vendor", " "]).LeavesOut tree entry directory ∧
          (directory.IsAbove (.ofNames ["code", "vendored.go"]) ∨
            directory.names = [] ∧ ["code", "vendored.go"] = [])) := by
  have wholeRoot : Path.Whole (suite ["lib/../vendor", " "]).root.names := by decide
  have inside : Path.Whole ["code", "vendor", "a.go"] := by decide
  have beside : Path.Whole ["code", "vendored.go"] := by decide
  have leftOut := (left_out_iff_below_unless_root wholeRoot).2 _ excludedPaths_vendor
  exact ⟨wholeRoot, excludedPaths_vendor, inside, leftOut _ inside, beside, leftOut _ beside⟩

open Vendored in
/-- Where the root is left out it is left out by itself, although nothing is above it. -/
theorem root_left_out_by_itself :
    (suite ["/"]).excludedPaths tree = .ok ["/"] ∧
      ¬ (isExcluded ["/"] (Path.ofNames []).toString = true ↔
        ∃ entry directory, (suite ["/"]).LeavesOut tree entry directory ∧
          directory.IsAbove (.ofNames [])) := by
  refine ⟨excludedPaths_root, fun same => ?_⟩
  obtain ⟨entry, directory, -, above, other⟩ := same.1 (by decide)
  exact other (List.prefix_nil.1 above)

end LintBench
