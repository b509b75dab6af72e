import LintBench.Proofs.Files.Unlinked

/-!
# Places that names lead straight down to

A resolution is always at a place that no link stands on the way to. What is found by
a name there stands in the tree, and a walk from the root to what is below it passes by
that place.
-/

namespace LintBench

namespace Tree

variable {tree : Tree} {here : Place} {name target : String} {names front rest : List String}
  {links : Nat} {spot : Spot} {fault : FileFault}

/-- Whether names lead straight down to a place: no link stands on the way to it, nor at it. -/
structure Straight (tree : Tree) (place : Place) : Prop where
  /-- No name stays or goes up. -/
  level : Level place
  /-- No link stands on the way, nor at the place. -/
  unlinked : ∀ front, front <+: place → ∀ target, tree.get? front ≠ some (.link target)

/-- The root is reached straight. -/
theorem straight_nil (tree : Tree) : tree.Straight [] where
  level := by simp [Level]
  unlinked front above target found := by simp [List.prefix_nil.1 above] at found

/-- The directory above a place that is reached straight is reached straight. -/
theorem Straight.dropLast (straight : tree.Straight here) : tree.Straight here.dropLast where
  level name member := straight.level name (List.dropLast_subset here member)
  unlinked front above := straight.unlinked front (above.trans (List.dropLast_prefix here))

/-- Where a link leads from is reached straight. -/
theorem Straight.linkStart (straight : tree.Straight here) (target : String) :
    tree.Straight (linkStart target here) := by
  unfold Tree.linkStart
  split
  · exact tree.straight_nil
  · exact straight

/-- What stands in a directory that is reached straight, and is no link, is reached straight. -/
theorem Straight.concat {node : Node} (straight : tree.Straight here) (notHere : name ≠ ".")
    (notUp : name ≠ "..") (found : tree.get? (here ++ [name]) = some node)
    (noLink : ∀ target, node ≠ .link target) : tree.Straight (here ++ [name]) where
  level := level_concat.2 ⟨straight.level, notHere, notUp⟩
  unlinked front above := by
    rcases List.prefix_concat_iff.1 above with rfl | above
    · rw [found]
      exact fun target same => noLink target (Option.some.inj same)
    · exact straight.unlinked front above

/-- A walk that follows no link on the way down ends at the place of its names. -/
theorem Way.place_eq {through : Bool} {links : Nat} {spot : Spot}
    (way : Way tree through links here names spot) (level : Level names)
    (noLink : ∀ front rest, names = front ++ rest → front ≠ [] → (rest.isEmpty && !through) = false →
      ∀ target, tree.get? (here ++ front) ≠ some (.link target)) :
    spot.place = here ++ names := by
  induction way with
  | done => simp
  | stay => exact absurd rfl (level_cons.1 level).1.1
  | up => exact absurd rfl (level_cons.1 level).1.2
  | @down _ here name rest _ _ _ _ ih =>
    rw [ih (level_cons.1 level).2 fun front back split some last => ?_, List.append_assoc,
      List.singleton_append]
    simpa using noLink (name :: front) back (by rw [split, List.cons_append]) (by simp) last
  | last => rfl
  | @jump _ here name target rest _ _ found followed =>
    exact absurd found (noLink [name] rest rfl (by simp) followed target)

/-- A walk along directories ends at whatever stands there, if no link is followed there. -/
theorem way_of_leads (links : Nat) (steps : ∀ name ∈ names, IsStep name)
    (leads : tree.Leads here names) :
    Way tree false links here names ⟨here ++ names, tree.get? (here ++ names)⟩ := by
  induction names generalizing here with
  | nil => simpa using Way.done links here
  | cons name rest ih =>
    obtain ⟨step, steps⟩ := List.forall_mem_cons.1 steps
    by_cases atEnd : rest = []
    · subst atEnd
      by_cases found : tree.get? (here ++ [name]) = some .directory
      · exact .down step found (.done links (here ++ [name]))
      · refine .last step ?_
        rcases stands : tree.get? (here ++ [name]) with _ | content | target | _
        · rfl
        · rfl
        · rfl
        · exact absurd stands found
    · obtain ⟨found, leads⟩ := (leads_cons atEnd).1 leads
      refine .down step found ?_
      simpa using ih steps leads

/-- What stands in a place that can be entered is the node at its place. -/
theorem nodeAt_of_enterable {place : Place} {node : Node} (fits : (Path.ofNames place).Fits)
    (enterable : tree.Enterable place.dropLast) (found : tree.get? place = some node) :
    tree.nodeAt place = .ok node := by
  have way := way_of_leads mostLinks fits.steps (leads_nil_iff.2 enterable)
  rw [nodeAt_eq, locate_eq_ok_iff.2 ⟨fits.noNul, fits.short, way⟩]
  simp [Path.ofNames, found]

/-- Where nothing stands in a place that can be entered no node is found. -/
theorem nodeAt_of_missing {place : Place} (fits : (Path.ofNames place).Fits)
    (enterable : tree.Enterable place.dropLast) (absent : tree.get? place = none) :
    tree.nodeAt place = .error .missing := by
  have way := way_of_leads mostLinks fits.steps (leads_nil_iff.2 enterable)
  rw [nodeAt_eq, locate_eq_ok_iff.2 ⟨fits.noNul, fits.short, way⟩]
  simp [Path.ofNames, absent]

/-- What is found by a name at a place that names lead straight down to stands in the tree. -/
theorem Straight.get?_of_nodeAt {node : Node} (straight : tree.Straight here) (notHere : name ≠ ".")
    (notUp : name ≠ "..") (found : tree.nodeAt (here ++ [name]) = .ok node) :
    tree.get? (here ++ [name]) = some node := by
  rw [nodeAt_eq] at found
  split at found
  · rename_i place reached located
    cases found
    have way := (locate_eq_ok_iff.1 located).2.2
    have place_eq := way.place_eq (level_concat.2 ⟨straight.level, notHere, notUp⟩) ?_
    · have stands := way.node_eq
      rw [place_eq] at stands
      exact stands.symm
    · intro front rest split _ last
      refine straight.unlinked front ?_
      have above : front <+: here ++ [name] := ⟨rest, split.symm⟩
      rcases List.prefix_concat_iff.1 above with rfl | above
      · simp [List.append_right_eq_self.1 split.symm] at last
      · exact above
  · cases found
  · cases found

/-- A walk from the root to what is below a place that names lead straight down to passes by the
place. -/
theorem Straight.way_below (straight : tree.Straight here) (inner : rest ≠ [])
    (way : Way tree true links [] (here ++ rest) spot) : Way tree true links here rest spot := by
  have passed (front back : Place) (split : here = front ++ back)
      (way : Way tree true links front (back ++ rest) spot) : Way tree true links here rest spot := by
    induction back generalizing front with
    | nil =>
      rw [List.append_nil] at split
      exact split ▸ way
    | cons name back ih =>
      have unlinked := straight.unlinked (front ++ [name]) ⟨back, by simp [split]⟩
      obtain ⟨notHere, notUp⟩ := straight.level name (by simp [split])
      generalize ahead : name :: back ++ rest = names at way
      cases way with
      | done => cases ahead
      | stay => exact absurd (List.cons.inj ahead).1 notHere
      | up => exact absurd (List.cons.inj ahead).1 notUp
      | down _ _ further =>
        obtain ⟨rfl, rfl⟩ := List.cons.inj ahead
        exact ih (front ++ [name]) (by simp [split]) further
      | last =>
        obtain ⟨-, none⟩ := List.cons.inj ahead
        exact absurd (List.append_eq_nil_iff.1 none).2 inner
      | jump _ found =>
        obtain ⟨rfl, -⟩ := List.cons.inj ahead
        exact absurd found (unlinked _)
  exact passed [] here rfl way

/-- A walk along names has walked along the first of them. -/
theorem Way.along_front (way : Way tree true links here (front ++ rest) spot) :
    ∃ spot, Way tree true links here front spot := by
  generalize whole : front ++ rest = names at way
  induction way generalizing front with
  | done links here =>
    rw [(List.append_eq_nil_iff.1 whole).1]
    exact ⟨_, .done links here⟩
  | @stay links here _ _ _ ih =>
    cases front with
    | nil => exact ⟨_, .done links here⟩
    | cons name front =>
      obtain ⟨rfl, later⟩ := List.cons.inj whole
      exact (ih later).imp fun _ => .stay
  | @up links here _ _ _ ih =>
    cases front with
    | nil => exact ⟨_, .done links here⟩
    | cons name front =>
      obtain ⟨rfl, later⟩ := List.cons.inj whole
      exact (ih later).imp fun _ => .up
  | @down links here _ _ _ step found _ ih =>
    cases front with
    | nil => exact ⟨_, .done links here⟩
    | cons name front =>
      obtain ⟨rfl, later⟩ := List.cons.inj whole
      exact (ih later).imp fun _ => .down step found
  | @last links here _ step ends =>
    cases front with
    | nil => exact ⟨_, .done links here⟩
    | cons name front =>
      obtain ⟨rfl, none⟩ := List.cons.inj whole
      rw [(List.append_eq_nil_iff.1 none).1]
      exact ⟨_, .last step ends⟩
  | @jump links here _ target _ _ step found _ _ ih =>
    cases front with
    | nil => exact ⟨_, .done (links + 1) here⟩
    | cons name front =>
      obtain ⟨rfl, rfl⟩ := List.cons.inj whole
      obtain ⟨spot, first⟩ := ih (List.append_assoc (linkSteps target) front rest)
      exact ⟨spot, .jump step found (by simp) first⟩

/-! ## Faults of a look-up -/

/-- A walk fails by what stands in the tree. -/
theorem ofTree_of_walk {through : Bool} {links : Nat}
    (failed : tree.walk through links here names = .error fault) : fault.ofTree = true := by
  fun_induction walk tree through links here names with
  | case1 => cases failed
  | case2 _ _ _ ih | case3 _ _ _ _ ih | case7 _ _ _ _ _ _ _ _ ih | case12 _ _ _ _ _ _ _ _ _ _ ih =>
    exact ih failed
  | case4 | case6 | case9 | case11 =>
    cases failed
    rfl
  | case5 | case8 | case10 => cases failed

/-- A path is located, or that fails by what stands in the tree, unless a name ends early. -/
theorem ofTree_of_locate {through : Bool} (noNul : path.names.any holdsNul = false)
    (failed : tree.locate through path = .error fault) : fault.ofTree = true := by
  unfold locate at failed
  rw [noNul, if_neg (by decide)] at failed
  split at failed
  · cases failed
    rfl
  · exact ofTree_of_walk failed

/-- No node is found where a name ends early, and else only by what stands in the tree. -/
theorem fault_of_nodeAt {place : Place} (absent : tree.nodeAt place = .error fault) :
    fault = .nulInName ∧ place.any holdsNul = true ∨ fault.ofTree = true := by
  unfold nodeAt at absent
  split at absent
  · rename_i nul
    cases absent
    exact .inl ⟨rfl, nul⟩
  · split at absent
    · cases absent
      exact .inr rfl
    · split at absent
      · cases absent
      · cases absent
        exact .inr rfl
      · rename_i failed
        cases absent
        exact .inr (ofTree_of_walk failed)

end Tree

end LintBench
