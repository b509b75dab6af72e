import LintBench.Proofs.Files.Finding
import LintBench.Proofs.Files.Resolving
import LintBench.Run.World

/-!
# How operations on a tree fail

Where no name on a path ends early, reading and changing a tree fail by what stands
in the tree. A search asks only what stands at paths, and so do its faults come from
the tree too, if the pattern can be read. A path that leads to a node resolves, or
the tree does not let it.
-/

namespace LintBench

namespace Tree

open Runs (FailsOnly)

/-- Whether a fault is one of the tree. -/
abbrev IsOfTree (fault : FileFault) : Prop := fault.ofTree = true

variable {tree : Tree} {path : Path}

/-! ## Looking up -/

/-- A path on which no name ends early is located unless the tree does not let it. -/
theorem failsOnly_locate (through : Bool) (noNul : path.names.any holdsNul = false) :
    FailsOnly IsOfTree (tree.locate through path) :=
  fun _ failed => ofTree_of_locate noNul failed

/-- Looking at a path without the character that ends names fails only for what the tree holds. -/
theorem failsOnly_node (noNul : path.names.any holdsNul = false) :
    FailsOnly IsOfTree (tree.node path) := by
  unfold Tree.node
  rcases located : tree.locate true path with fault | ⟨place, _ | node⟩
  · exact .error (failsOnly_locate true noNul fault located)
  · exact .error rfl
  · exact .ok node

/-- Asking what stands at a path fails by what stands in the tree: where a name ends early, nothing
does. -/
theorem failsOnly_nodeIs (tree : Tree) (test : Node → Bool) (path : Path) :
    FailsOnly IsOfTree (tree.nodeIs test path) := by
  unfold nodeIs
  cases found : tree.node path with
  | ok node => exact .ok (test node)
  | error fault =>
    simp only
    cases absent : fault.meansAbsent with
    | true => exact .ok false
    | false =>
      by_cases nul : path.names.any holdsNul = true
      · have early : tree.node path = .error .nulInName := by rw [Tree.node, locate, if_pos nul]
        rw [early] at found
        cases found
        cases absent
      · exact .error (failsOnly_node (Bool.eq_false_iff.2 nul) fault found)

/-- Reading fails only for what the tree holds. -/
theorem failsOnly_content (noNul : path.names.any holdsNul = false) :
    FailsOnly IsOfTree (tree.content path) := by
  unfold content
  rcases found : tree.node path with fault | (content | target | _)
  · exact .error (failsOnly_node noNul fault found)
  · exact .ok content
  · exact .error rfl
  · exact .error rfl

/-! ## Changing -/

/-- Writing fails only for what the tree holds. -/
theorem failsOnly_store (content : Text.Bytes) (noNul : path.names.any holdsNul = false) :
    FailsOnly IsOfTree (tree.store path content) := by
  unfold store
  rcases located : tree.locate true path with fault | ⟨place, _ | (_ | _ | _)⟩
  · exact .error (failsOnly_locate true noNul fault located)
  · exact .ok _
  · exact .ok _
  · exact .ok _
  · exact .error rfl

/-- Making a directory fails only for what the tree holds. -/
theorem failsOnly_makeDirectory (noNul : path.names.any holdsNul = false) :
    FailsOnly IsOfTree (tree.makeDirectory path) := by
  unfold makeDirectory
  rcases located : tree.locate false path with fault | ⟨place, _ | node⟩
  · exact .error (failsOnly_locate false noNul fault located)
  · exact .ok _
  · exact .error rfl

/-- Making sure of a directory fails only for what the tree holds. -/
theorem failsOnly_ensureDirectory (noNul : path.names.any holdsNul = false) :
    FailsOnly IsOfTree (tree.ensureDirectory path) := by
  unfold ensureDirectory
  cases made : tree.makeDirectory path with
  | ok next => exact .ok next
  | error fault =>
    rcases there : tree.isDirectory path with other | (_ | _)
    · exact .error (failsOnly_nodeIs tree _ path other there)
    · exact .error (failsOnly_makeDirectory noNul fault made)
    · exact .ok tree

/-- Making directories fails only for what the tree holds. -/
theorem failsOnly_makeDirectories (noNul : path.names.any holdsNul = false) :
    FailsOnly IsOfTree (tree.makeDirectories path) := by
  obtain ⟨anchor, names⟩ := path
  obtain ⟨reversed, rfl⟩ : ∃ reversed : List String, names = reversed.reverse :=
    ⟨names.reverse, names.reverse_reverse.symm⟩
  rw [makeDirectories, List.reverse_reverse]
  induction reversed with
  | nil => exact failsOnly_ensureDirectory noNul
  | cons name above ih =>
    have free : above.reverse.any holdsNul = false := by
      rw [List.reverse_cons, List.any_append, Bool.or_eq_false_iff] at noNul
      exact noNul.1
    rw [ensureAlong]
    split
    · exact .bind (ih free) fun middle => failsOnly_ensureDirectory noNul
    · exact failsOnly_ensureDirectory noNul

/-- A copy goes where no name ends early, if none does on the paths of the file and of the copy. -/
theorem noNul_copyTarget {source target : Path} (fromNoNul : source.names.any holdsNul = false)
    (toNoNul : target.names.any holdsNul = false) :
    (tree.copyTarget source target).names.any holdsNul = false := by
  have named : holdsNul source.name = false := by
    unfold Path.name
    cases last : source.names.getLast? with
    | none => rfl
    | some name => simpa using List.any_eq_false.1 fromNoNul name (List.mem_of_getLast? last)
  unfold copyTarget
  split
  · rw [List.any_append, toNoNul, List.any_cons, named]
    rfl
  · exact toNoNul

/-- A file is copied unless the tree does not let it. -/
theorem failsOnly_copy {source target : Path} (fromNoNul : source.names.any holdsNul = false)
    (toNoNul : target.names.any holdsNul = false) :
    FailsOnly IsOfTree (tree.copy source target) := by
  simp only [copy]
  cases tree.sameNode source (tree.copyTarget source target) with
  | true => exact .error rfl
  | false =>
    exact .bind (failsOnly_content fromNoNul) fun content =>
      failsOnly_store content (noNul_copyTarget fromNoNul toNoNul)

/-! ## Searching -/

/-- Looking for directories fails only for what the tree holds. -/
theorem failsOnly_directoriesBelow (tree : Tree) (path : Path) :
    FailsOnly IsOfTree (tree.directoriesBelow path) := by
  unfold directoriesBelow
  split
  · refine .bind (.forM _ fun entry => ?_) fun _ => .ok _
    split
    · exact .map _ (failsOnly_nodeIs tree _ _)
    · exact .ok _
  · exact .ok []

/-- Testing what is found fails only for what the tree holds. -/
theorem failsOnly_passes (tree : Tree) (base : Path) (directories atEnd : Bool)
    (names : List String) : FailsOnly IsOfTree (tree.passes base directories atEnd names) := by
  unfold passes
  split <;> exact failsOnly_nodeIs tree _ _

/-- A step of a search fails only for what the tree holds. -/
theorem failsOnly_nextRows (tree : Tree) (base : Path) (directories atEnd : Bool)
    (names : List String) (step : SearchStep) :
    FailsOnly IsOfTree (tree.nextRows base directories atEnd names step) := by
  cases step with
  | anyDepth => exact failsOnly_directoriesBelow tree _
  | named name => exact .map _ (failsOnly_passes tree base directories atEnd _)
  | like pattern =>
    refine .map _ (.filterM _ fun name => ?_)
    split
    · exact failsOnly_nodeIs tree _ _
    · exact .ok true

/-- The steps of a search fail only for what the tree holds. -/
theorem failsOnly_select (tree : Tree) (base : Path) (directories : Bool) (steps : List SearchStep)
    (names : List String) : FailsOnly IsOfTree (tree.select base directories steps names) := by
  induction steps generalizing names with
  | nil => exact .ok [names]
  | cons step rest ih =>
    rw [select_cons]
    refine .bind (failsOnly_nextRows tree base directories rest.isEmpty names step) fun next => ?_
    exact .bind (.mapM next fun more => ih _) fun found => .ok found.flatten

/-- A search fails only for what the tree holds. -/
theorem failsOnly_findRows (tree : Tree) (path : Path) (read : SearchPattern) :
    FailsOnly IsOfTree (tree.findRows path read) := by
  refine .bind (failsOnly_nodeIs tree _ path) fun entered => ?_
  split
  · refine .bind (failsOnly_select tree path read.directories read.steps []) fun selected => ?_
    exact .filterM selected fun names => failsOnly_nodeIs tree _ _
  · exact .ok []

end Tree

/-! ## Patterns that cannot be read -/

/-- Whether a fault of a search is none of the tree. -/
def SearchFault.IsOfPattern (fault : SearchFault) : Prop := ∀ other, fault ≠ .file other

/-- Reading a search pattern fails by the pattern. -/
theorem SearchPattern.failsOnly_read (pattern : String) :
    Runs.FailsOnly SearchFault.IsOfPattern (SearchPattern.read pattern) := by
  have step (name : String) : Runs.FailsOnly SearchFault.IsOfPattern (SearchStep.read name) := by
    simp only [SearchStep.read]
    split
    · exact .ok _
    · split
      · exact .error (by simp [SearchFault.IsOfPattern])
      · exact .ok _
  simp only [SearchPattern.read]
  split
  · exact .error (by simp [SearchFault.IsOfPattern])
  · split
    · split <;> exact .error (by simp [SearchFault.IsOfPattern])
    · exact .map _ (.mapM _ step)

/-- Whether a search pattern cannot be read, and why. -/
structure SearchPattern.Unreadable (pattern : String) (fault : SearchFault) : Prop where
  /-- The pattern asks for something. -/
  asks : Text.isAllBlank pattern = false
  /-- That is why it is not read. -/
  fails : SearchPattern.read pattern = .error fault

namespace SearchPattern.Unreadable

variable {pattern : String} {fault : SearchFault}

/-- A pattern that is not read is no fault of the tree. -/
theorem ofTree_eq_false (unreadable : Unreadable pattern fault) :
    (RunFault.search fault).ofTree = false := by
  cases fault with
  | file other => exact absurd rfl (failsOnly_read pattern _ unreadable.fails other)
  | _ => rfl

/-- A pattern that cannot be read is searched for in no tree. -/
theorem search_eq (unreadable : Unreadable pattern fault) (tree : Tree) (path : Path) :
    tree.search path pattern = .error fault := by
  rw [Tree.search_eq, unreadable.asks, unreadable.fails]
  rfl

end SearchPattern.Unreadable

namespace Tree

open Runs (FailsOnly)

variable {tree : Tree} {path : Path}

/-- A search fails if its pattern cannot be read, or by what stands in the tree. -/
theorem search_eq_error {pattern : String} {fault : SearchFault}
    (failed : tree.search path pattern = .error fault) :
    SearchPattern.Unreadable pattern fault ∨ ∃ other, fault = .file other ∧ IsOfTree other := by
  rw [search_eq] at failed
  split at failed
  · cases failed
  · rename_i asks
    rcases Runs.bind_eq_error.1 failed with fails | ⟨read, -, later⟩
    · exact .inl ⟨Bool.eq_false_iff.2 asks, fails⟩
    · rcases Runs.bind_eq_error.1 later with fails | ⟨_, -, done⟩
      · cases found : tree.findRows path read with
        | ok rows =>
          rw [found] at fails
          cases fails
        | error other =>
          rw [found] at fails
          cases fails
          exact .inr ⟨other, rfl, failsOnly_findRows tree path read other found⟩
      · cases done

/-! ## Resolving what is there -/

/-- Whether no name in a tree ends early. -/
def NulFree (tree : Tree) : Prop :=
  ∀ place node, tree.get? place = some node → place.any holdsNul = false

/-- What stands below a place where a look-up goes on to a node. -/
theorem Way.exists_next {links : Nat} {here : Place} {name : String} {rest : List String}
    {spot : Spot} (way : Way tree true links here (name :: rest) spot) (notHere : name ≠ ".")
    (notUp : name ≠ "..") (there : spot.node ≠ none) :
    ∃ node, tree.get? (here ++ [name]) = some node := by
  cases way with
  | stay => exact absurd rfl notHere
  | up => exact absurd rfl notUp
  | down _ found => exact ⟨_, found⟩
  | last => exact Option.ne_none_iff_exists'.1 there
  | jump _ found => exact ⟨_, found⟩

/-- Names that a look-up goes along to a node have no other fault than one of the tree. A look-up
follows few links, so that not too many of them can be entered. -/
theorem Resolution.failsOnly {inside : List Place} {known : Known} {here : Place}
    {names more : List String} {links : Nat} {spot : Spot}
    {outcome : Except FileFault (Known × Place)}
    (resolution : Resolution tree inside known here names outcome) (free : tree.NulFree)
    (straight : tree.Straight here) (remembers : tree.Remembers known)
    (ahead : tree.Ahead inside here names) (few : inside.length + links ≤ deepestLinks)
    (way : Way tree true links here (names ++ more) spot) (there : spot.node ≠ none) :
    FailsOnly IsOfTree outcome := by
  induction resolution generalizing links more with
  | done _ known here => exact .ok (known, here)
  | @stay _ _ here _ _ _ ih =>
    obtain ⟨left, fewer, further⟩ := tree.passesTo_stay here links _ spot way
    exact ih straight remembers (ahead.pass (tree.passesTo_stay here)) (by omega) further
  | @up _ _ here _ _ _ ih =>
    obtain ⟨left, fewer, further⟩ := tree.passesTo_up here links _ spot way
    exact ih straight.dropLast remembers (ahead.pass (tree.passesTo_up here)) (by omega) further
  | enter notHere notUp found noLink _ ih =>
    have stands := straight.get?_of_nodeAt notHere notUp found
    have passes := passesTo_enter notHere notUp stands noLink
    obtain ⟨left, fewer, further⟩ := passes links _ spot way
    exact ih (straight.concat notHere notUp stands noLink) remembers (ahead.pass passes) (by omega)
      further
  | blocked _ _ rest notHere notUp absent =>
    obtain ⟨node, found⟩ := way.exists_next notHere notUp there
    rcases fault_of_nodeAt absent with ⟨-, nul⟩ | ofTree
    · rw [free _ node found] at nul
      cases nul
    · exact .error ofTree
  | revisit link recalled _ ih =>
    have passes := remembers.passesTo straight link recalled
    obtain ⟨left, fewer, further⟩ := passes links _ spot way
    exact ih (remembers _ _ recalled).1 remembers (ahead.pass passes) (by omega) further
  | @jump inside _ _ here _ _ target rest _ link _ _ _ led _ ihLed ih =>
    have stands := link.stands straight
    obtain ⟨less, rfl, steps⟩ := way_link link.notHere link.notUp stands way
    obtain ⟨straightThere, remembersLed, passes⟩ := led.passes rfl (straight.linkStart target) remembers
    obtain ⟨left, fewer, further⟩ := passes less _ spot steps
    exact ih straightThere (remembersLed.close straight link straightThere passes)
      (ahead.pass (passesTo_link link.notHere link.notUp stands passes)) (by omega) further
  | @lost inside _ here _ target _ rest link _ _ _ _ ihLed =>
    obtain ⟨less, rfl, steps⟩ := way_link link.notHere link.notUp (link.stands straight) way
    exact ihLed (straight.linkStart target) remembers (ahead.enter straight link)
      (by rw [List.length_cons]; omega) steps
  | looped _ link _ within =>
    obtain ⟨less, last, -, again⟩ := link.linkWay straight way
    exact absurd again (ahead.not_linkWay straight link within)
  | nested _ link _ _ full =>
    obtain ⟨less, rfl, -⟩ := way_link link.notHere link.notUp (link.stands straight) way
    omega

/-- A path that leads to a node resolves, or the tree does not let it resolve. -/
theorem exists_resolveIfThere {place : Place} {node : Node} (free : tree.NulFree)
    (located : tree.locate true path = .ok ⟨place, some node⟩) :
    ∃ shown, tree.resolveIfThere path = .ok shown := by
  obtain ⟨-, -, way⟩ := locate_eq_ok_iff.1 located
  rw [← path.names.append_nil] at way
  obtain ⟨outcome, resolution⟩ := tree.exists_outcome path
  have only := resolution.failsOnly free tree.straight_nil tree.remembers_nil
    (tree.ahead_nil [] path.names) (by decide) way (by simp)
  rw [resolveIfThere, resolution.resolveStrict_eq]
  cases outcome with
  | ok found => exact ⟨_, rfl⟩
  | error fault =>
    refine ⟨none, ?_⟩
    simp only [Except.map]
    exact if_pos (only fault rfl)

end Tree

end LintBench
