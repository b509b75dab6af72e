import LintBench.Proofs.Files.Straight

/-!
# Where strict resolutions lead

What becomes of names that are resolved from a place, name by name. A link that has been
left leads where it led then. Any other link is entered: its steps are resolved first, and
the names after it from where they lead. A link that is met inside itself is looked up, and
the fault is the one of that; links that are entered inside each other too deep are a fault
of their own. Whatever the tree, names have an outcome, and it is the one that the resolution
that is carried out finds.

A look-up takes the same steps as a resolution as long as it succeeds. So one that comes
upon a link inside that link comes upon it again and again, and never finds anything.
-/

namespace LintBench

/-- The fault of a link that is met inside itself, where looking it up has the given one. -/
def FileFault.ofLoop : FileFault → FileFault
  | .tooManyLinks => .endlessLink
  | fault => fault

namespace Tree

/-- Links that have been left, each with where it led. -/
abbrev Known := List (Place × Place)

/-- Whether a name leads from a place to a link. -/
structure LinkAt (tree : Tree) (here : Place) (name target : String) : Prop where
  /-- The name does not stay. -/
  notHere : name ≠ "."
  /-- It does not go up. -/
  notUp : name ≠ ".."
  /-- A link is found there. -/
  found : tree.nodeAt (here ++ [name]) = .ok (.link target)

/-- What becomes of names that are resolved from a place, inside of some links and with others left:
a fault, or a place and the links that have been left by then. -/
inductive Resolution (tree : Tree) :
    List Place → Known → Place → List String → Except FileFault (Known × Place) → Prop where
  /-- No name is left. -/
  | done (inside : List Place) (known : Known) (here : Place) :
      Resolution tree inside known here [] (.ok (known, here))
  /-- A dot stays. -/
  | stay {inside : List Place} {known : Known} {here : Place} {rest : List String}
      {outcome : Except FileFault (Known × Place)}
      (further : Resolution tree inside known here rest outcome) :
      Resolution tree inside known here ("." :: rest) outcome
  /-- Two dots go up. -/
  | up {inside : List Place} {known : Known} {here : Place} {rest : List String}
      {outcome : Except FileFault (Known × Place)}
      (further : Resolution tree inside known here.dropLast rest outcome) :
      Resolution tree inside known here (".." :: rest) outcome
  /-- A name leads to what is no link. -/
  | enter {inside : List Place} {known : Known} {here : Place} {name : String}
      {rest : List String} {node : Node} {outcome : Except FileFault (Known × Place)}
      (notHere : name ≠ ".") (notUp : name ≠ "..")
      (found : tree.nodeAt (here ++ [name]) = .ok node) (noLink : ∀ target, node ≠ .link target)
      (further : Resolution tree inside known (here ++ [name]) rest outcome) :
      Resolution tree inside known here (name :: rest) outcome
  /-- A name leads to nothing. -/
  | blocked {here : Place} {name : String} {fault : FileFault} (inside : List Place) (known : Known)
      (rest : List String) (notHere : name ≠ ".") (notUp : name ≠ "..")
      (absent : tree.nodeAt (here ++ [name]) = .error fault) :
      Resolution tree inside known here (name :: rest) (.error fault)
  /-- A name leads to a link that has been left. -/
  | revisit {inside : List Place} {known : Known} {here there : Place} {name target : String}
      {rest : List String} {outcome : Except FileFault (Known × Place)}
      (link : tree.LinkAt here name target) (left : known.lookup (here ++ [name]) = some there)
      (further : Resolution tree inside known there rest outcome) :
      Resolution tree inside known here (name :: rest) outcome
  /-- A name leads to a link that is entered and left. -/
  | jump {inside : List Place} {known later : Known} {here there : Place} {name target : String}
      {rest : List String} {outcome : Except FileFault (Known × Place)}
      (link : tree.LinkAt here name target) (new : known.lookup (here ++ [name]) = none)
      (outside : here ++ [name] ∉ inside) (room : inside.length < deepestLinks)
      (led : Resolution tree ((here ++ [name]) :: inside) known (linkStart target here)
        (linkSteps target) (.ok (later, there)))
      (further : Resolution tree inside ((here ++ [name], there) :: later) there rest outcome) :
      Resolution tree inside known here (name :: rest) outcome
  /-- A name leads to a link that is entered, and its steps lead nowhere. -/
  | lost {inside : List Place} {known : Known} {here : Place} {name target : String}
      {fault : FileFault} (rest : List String) (link : tree.LinkAt here name target)
      (new : known.lookup (here ++ [name]) = none) (outside : here ++ [name] ∉ inside)
      (room : inside.length < deepestLinks)
      (led : Resolution tree ((here ++ [name]) :: inside) known (linkStart target here)
        (linkSteps target) (.error fault)) :
      Resolution tree inside known here (name :: rest) (.error fault)
  /-- A name leads to a link inside that link, and looking the link up has a fault. -/
  | looped {inside : List Place} {known : Known} {here : Place} {name target : String}
      {fault : FileFault} (rest : List String) (link : tree.LinkAt here name target)
      (new : known.lookup (here ++ [name]) = none) (within : here ++ [name] ∈ inside)
      (absent : tree.node (.ofNames (here ++ [name])) = .error fault) :
      Resolution tree inside known here (name :: rest) (.error fault.ofLoop)
  /-- A name leads to a link, and no more links can be entered. -/
  | nested {inside : List Place} {known : Known} {here : Place} {name target : String}
      (rest : List String) (link : tree.LinkAt here name target)
      (new : known.lookup (here ++ [name]) = none) (outside : here ++ [name] ∉ inside)
      (full : deepestLinks ≤ inside.length) :
      Resolution tree inside known here (name :: rest) (.error .linksTooDeep)

variable {tree : Tree} {inside : List Place} {known later : Known} {here there next link : Place}
  {name target : String} {names front rest more : List String} {links : Nat} {spot : Spot}
  {outcome : Except FileFault (Known × Place)} {fault : FileFault}

/-! ## What a look-up does with the same names -/

/-- Whether a look-up that goes along some names goes on from a place, with no more links left to
follow. -/
def PassesTo (tree : Tree) (here : Place) (names : List String) (there : Place) : Prop :=
  ∀ links rest spot, Way tree true links here (names ++ rest) spot →
    ∃ left ≤ links, Way tree true left there rest spot

/-- No names lead to where they start. -/
theorem passesTo_nil (tree : Tree) (here : Place) : tree.PassesTo here [] here :=
  fun links _ _ way => ⟨links, Nat.le_refl links, way⟩

/-- A step to the same place stays. -/
theorem passesTo_stay (tree : Tree) (here : Place) : tree.PassesTo here ["."] here := by
  intro links rest spot way
  generalize dot : ["."] ++ rest = names at way
  cases way with
  | done => cases dot
  | stay further =>
    cases dot
    exact ⟨links, Nat.le_refl links, further⟩
  | up => exact absurd (List.cons.inj dot).1 (by decide)
  | down step | last step | jump step => exact absurd (List.cons.inj dot).1.symm step.notHere

/-- A step up leads to the directory above. -/
theorem passesTo_up (tree : Tree) (here : Place) : tree.PassesTo here [".."] here.dropLast := by
  intro links rest spot way
  generalize dots : [".."] ++ rest = names at way
  cases way with
  | done => cases dots
  | stay => exact absurd (List.cons.inj dots).1 (by decide)
  | up further =>
    cases dots
    exact ⟨links, Nat.le_refl links, further⟩
  | down step | last step | jump step => exact absurd (List.cons.inj dots).1.symm step.notUp

/-- A look-up passes to what is no link. -/
theorem passesTo_enter {node : Node} (notHere : name ≠ ".") (notUp : name ≠ "..")
    (found : tree.get? (here ++ [name]) = some node) (noLink : ∀ target, node ≠ .link target) :
    tree.PassesTo here [name] (here ++ [name]) := by
  intro links rest spot way
  cases way with
  | stay => exact absurd rfl notHere
  | up => exact absurd rfl notUp
  | down _ _ further => exact ⟨links, Nat.le_refl links, further⟩
  | last => exact ⟨links, Nat.le_refl links, .done links (here ++ [name])⟩
  | jump _ linked => exact absurd (Option.some.inj (found.symm.trans linked)) (noLink _)

/-- A look-up that comes to a link goes on with its steps, and has one link less left to follow. -/
theorem way_link (notHere : name ≠ ".") (notUp : name ≠ "..")
    (found : tree.get? (here ++ [name]) = some (.link target))
    (way : Way tree true links here (name :: rest) spot) :
    ∃ less, links = less + 1 ∧
      Way tree true less (linkStart target here) (linkSteps target ++ rest) spot := by
  cases way with
  | stay => exact absurd rfl notHere
  | up => exact absurd rfl notUp
  | down _ other => simp [found] at other
  | last _ ends => simp [found, canEnd] at ends
  | jump _ other _ further =>
    cases found.symm.trans other
    exact ⟨_, rfl, further⟩

/-- A look-up that comes to a link passes to where its steps pass to. -/
theorem passesTo_link (notHere : name ≠ ".") (notUp : name ≠ "..")
    (found : tree.get? (here ++ [name]) = some (.link target))
    (led : tree.PassesTo (linkStart target here) (linkSteps target) there) :
    tree.PassesTo here [name] there := by
  intro links rest spot way
  obtain ⟨less, rfl, further⟩ := way_link notHere notUp found way
  obtain ⟨left, fewer, last⟩ := led less rest spot further
  exact ⟨left, Nat.le_succ_of_le fewer, last⟩

/-- A look-up passes along some names and then along others. -/
theorem PassesTo.cons (first : tree.PassesTo here [name] next) (later : tree.PassesTo next rest there) :
    tree.PassesTo here (name :: rest) there := by
  intro links more spot way
  obtain ⟨left, fewer, further⟩ := first links (rest ++ more) spot way
  obtain ⟨last, fewest, ends⟩ := later left more spot further
  exact ⟨last, Nat.le_trans fewest fewer, ends⟩

/-- Whether it is known of links where they lead. -/
def Remembers (tree : Tree) (known : Known) : Prop :=
  ∀ link there, known.lookup link = some there → tree.Straight there ∧
    ∀ target, tree.get? link = some (.link target) →
      tree.PassesTo (linkStart target link.dropLast) (linkSteps target) there

/-- Nothing is remembered wrongly at the start. -/
theorem remembers_nil (tree : Tree) : tree.Remembers [] := by
  intro link there left
  cases left

/-- A link is found in the tree at a place that names lead straight down to. -/
theorem LinkAt.stands (link : tree.LinkAt here name target) (straight : tree.Straight here) :
    tree.get? (here ++ [name]) = some (.link target) :=
  straight.get?_of_nodeAt link.notHere link.notUp link.found

/-- A look-up passes a link that has been left to where it led. -/
theorem Remembers.passesTo (remembers : tree.Remembers known) (straight : tree.Straight here)
    (link : tree.LinkAt here name target) (left : known.lookup (here ++ [name]) = some there) :
    tree.PassesTo here [name] there := by
  obtain ⟨-, leads⟩ := remembers _ there left
  have led := leads target (link.stands straight)
  rw [List.dropLast_concat] at led
  exact passesTo_link link.notHere link.notUp (link.stands straight) led

/-- A link that is left is known to lead where its steps did. -/
theorem Remembers.close (remembers : tree.Remembers known) (straight : tree.Straight here)
    (link : tree.LinkAt here name target) (straightThere : tree.Straight there)
    (led : tree.PassesTo (linkStart target here) (linkSteps target) there) :
    tree.Remembers ((here ++ [name], there) :: known) := by
  intro other place left
  rw [List.lookup_cons] at left
  split at left
  · rename_i same
    cases left
    rw [beq_iff_eq.1 same]
    refine ⟨straightThere, fun target stands => ?_⟩
    cases (link.stands straight).symm.trans stands
    rwa [List.dropLast_concat]
  · exact remembers other place left

/-- A resolution that leads somewhere leads straight down, a look-up passes to the same place, and
what is known of links by then holds. -/
theorem Resolution.passes (resolution : Resolution tree inside known here names outcome)
    (leads : outcome = .ok (later, there)) (straight : tree.Straight here)
    (remembers : tree.Remembers known) :
    tree.Straight there ∧ tree.Remembers later ∧ tree.PassesTo here names there := by
  induction resolution generalizing later there with
  | done _ _ here =>
    cases leads
    exact ⟨straight, remembers, tree.passesTo_nil here⟩
  | @stay _ _ here _ _ _ ih =>
    obtain ⟨straightThere, remembersLater, passes⟩ := ih leads straight remembers
    exact ⟨straightThere, remembersLater, (tree.passesTo_stay here).cons passes⟩
  | @up _ _ here _ _ _ ih =>
    obtain ⟨straightThere, remembersLater, passes⟩ := ih leads straight.dropLast remembers
    exact ⟨straightThere, remembersLater, (tree.passesTo_up here).cons passes⟩
  | enter notHere notUp found noLink _ ih =>
    have stands := straight.get?_of_nodeAt notHere notUp found
    obtain ⟨straightThere, remembersLater, passes⟩ :=
      ih leads (straight.concat notHere notUp stands noLink) remembers
    exact ⟨straightThere, remembersLater, (passesTo_enter notHere notUp stands noLink).cons passes⟩
  | revisit link left _ ih =>
    obtain ⟨straightThere, remembersLater, passes⟩ := ih leads (remembers _ _ left).1 remembers
    exact ⟨straightThere, remembersLater, (remembers.passesTo straight link left).cons passes⟩
  | @jump _ _ _ here _ _ target _ _ link _ _ _ _ _ ihLed ih =>
    obtain ⟨straightThere, remembersLed, led⟩ := ihLed rfl (straight.linkStart target) remembers
    obtain ⟨straightLast, remembersLater, passes⟩ :=
      ih leads straightThere (remembersLed.close straight link straightThere led)
    have across := passesTo_link link.notHere link.notUp (link.stands straight) led
    exact ⟨straightLast, remembersLater, across.cons passes⟩
  | blocked | lost | looped | nested => cases leads

/-! ## Links that are met inside themselves -/

/-- Whether a look-up from the steps of a link ends somewhere. -/
def LinkWay (tree : Tree) (links : Nat) (link : Place) (spot : Spot) : Prop :=
  ∃ target, tree.get? link = some (.link target) ∧
    Way tree true links (linkStart target link.dropLast) (linkSteps target) spot

/-- Whether a look-up from the steps of any link that has been entered comes along the names that
are ahead. -/
def Ahead (tree : Tree) (inside : List Place) (here : Place) (names : List String) : Prop :=
  ∀ link ∈ inside, ∀ links spot, tree.LinkWay links link spot →
    ∃ left ≤ links, ∃ more last, Way tree true left here (names ++ more) last

/-- With no link open nothing is asked of the names ahead. -/
theorem ahead_nil (tree : Tree) (here : Place) (names : List String) : tree.Ahead [] here names :=
  List.forall_mem_nil _

/-- A look-up comes along what is ahead after a name. -/
theorem Ahead.pass (ahead : tree.Ahead inside here (name :: rest))
    (passes : tree.PassesTo here [name] next) : tree.Ahead inside next rest := by
  intro link member links spot way
  obtain ⟨left, fewer, more, last, further⟩ := ahead link member links spot way
  obtain ⟨fewest, fewerStill, ends⟩ := passes left (rest ++ more) last further
  exact ⟨fewest, Nat.le_trans fewerStill fewer, more, last, ends⟩

/-- A look-up comes along the steps of a link that is entered. -/
theorem Ahead.enter (ahead : tree.Ahead inside here (name :: rest)) (straight : tree.Straight here)
    (link : tree.LinkAt here name target) :
    tree.Ahead ((here ++ [name]) :: inside) (linkStart target here) (linkSteps target) := by
  have stands := link.stands straight
  intro entered member links spot way
  rcases List.mem_cons.1 member with rfl | member
  · obtain ⟨other, same, steps⟩ := way
    cases stands.symm.trans same
    rw [List.dropLast_concat] at steps
    exact ⟨links, Nat.le_refl links, [], spot, by rwa [List.append_nil]⟩
  · obtain ⟨left, fewer, more, last, further⟩ := ahead entered member links spot way
    obtain ⟨less, rfl, steps⟩ := way_link link.notHere link.notUp stands further
    exact ⟨less, Nat.le_of_succ_le fewer, rest ++ more, last, steps⟩

/-- A look-up that comes upon a link goes along the steps of the link. -/
theorem LinkAt.linkWay (link : tree.LinkAt here name target) (straight : tree.Straight here)
    (way : Way tree true links here (name :: rest) spot) :
    ∃ less last, links = less + 1 ∧ tree.LinkWay less (here ++ [name]) last := by
  have stands := link.stands straight
  obtain ⟨less, rfl, further⟩ := way_link link.notHere link.notUp stands way
  obtain ⟨last, steps⟩ := further.along_front
  exact ⟨less, last, rfl, target, stands, by rwa [List.dropLast_concat]⟩

/-- No look-up from the steps of a link that is met inside itself ends anywhere: it comes upon the
link again, with fewer links left to follow. -/
theorem Ahead.not_linkWay (ahead : tree.Ahead inside here (name :: rest))
    (straight : tree.Straight here) (link : tree.LinkAt here name target)
    (within : here ++ [name] ∈ inside) : ¬ tree.LinkWay links (here ++ [name]) spot := by
  induction links using Nat.strongRecOn generalizing spot with
  | _ links ih =>
    intro way
    obtain ⟨left, fewer, more, last, further⟩ := ahead _ within links spot way
    obtain ⟨less, ending, rfl, again⟩ := link.linkWay straight further
    exact ih less (Nat.lt_of_succ_le fewer) again

/-- A link that is met inside itself is not found by looking it up. -/
theorem Ahead.exists_fault (ahead : tree.Ahead inside here (name :: rest))
    (straight : tree.Straight here) (link : tree.LinkAt here name target)
    (within : here ++ [name] ∈ inside) :
    ∃ fault, tree.node (.ofNames (here ++ [name])) = .error fault := by
  cases reached : tree.node (.ofNames (here ++ [name])) with
  | error fault => exact ⟨fault, rfl⟩
  | ok node =>
    obtain ⟨place, located, -⟩ := node_eq_ok_iff.1 reached
    have way := (locate_eq_ok_iff.1 located).2.2
    have below := straight.way_below (List.cons_ne_nil name []) way
    obtain ⟨less, last, -, again⟩ := link.linkWay straight below
    exact absurd again (ahead.not_linkWay straight link within)

/-! ## Every path has an outcome -/

/-- The links that have neither been entered nor left. -/
def fresh (tree : Tree) (inside : List Place) (known : Known) : List Place :=
  tree.links.filter fun link => !inside.contains link && (known.lookup link).isNone

/-- The links that are fresh are those neither open nor known. -/
theorem mem_fresh : link ∈ tree.fresh inside known ↔
    link ∈ tree.links ∧ link ∉ inside ∧ known.lookup link = none := by
  simp [fresh]

/-- At the start every link is fresh. -/
@[simp] theorem fresh_start (tree : Tree) : tree.fresh [] [] = tree.links := by
  simp [fresh]

/-- What stands in the tree as a link is listed among the links. -/
theorem mem_links (stands : tree.get? link = some (.link target)) : link ∈ tree.links := by
  refine List.mem_filterMap.2 ⟨(link, .link target), ?_, rfl⟩
  rw [get?] at stands
  split at stands
  · cases stands
  · exact mem_of_find?_eq_some stands

/-- A link that is opened is fresh no more. -/
theorem fresh_enter (tree : Tree) (inside : List Place) (known : Known) (link : Place) :
    tree.fresh (link :: inside) known = without (tree.fresh inside known) link := by
  rw [without, fresh, fresh, List.filter_filter]
  refine List.filter_congr fun other _ => ?_
  simp [Bool.and_assoc]

/-- Closing a link keeps those that are fresh. -/
theorem fresh_close (tree : Tree) (inside : List Place) (known : Known) (link there : Place) :
    tree.fresh (link :: inside) known = tree.fresh inside ((link, there) :: known) := by
  refine List.filter_congr fun other _ => ?_
  by_cases same : other = link
  · simp [same]
  · have differ : (other == link) = false := by simpa using same
    rw [List.lookup_cons, differ]
    simp [same]

/-- Links that have been left stay so. -/
theorem Resolution.keeps (resolution : Resolution tree inside known here names outcome)
    (leads : outcome = .ok (later, there)) (new : later.lookup link = none) :
    known.lookup link = none := by
  induction resolution generalizing later there with
  | done =>
    cases leads
    exact new
  | stay _ ih | up _ ih | enter _ _ _ _ _ ih | revisit _ _ _ ih => exact ih leads new
  | jump _ _ _ _ _ _ ihLed ih =>
    have before := ih leads new
    rw [List.lookup_cons] at before
    split at before
    · cases before
    · exact ihLed rfl before
  | blocked | lost | looped | nested => cases leads

/-- After a link has been left fewer links are new than before it was entered. -/
theorem Resolution.length_fresh_lt (link : tree.LinkAt here name target)
    (straight : tree.Straight here) (new : known.lookup (here ++ [name]) = none)
    (outside : here ++ [name] ∉ inside)
    (led : Resolution tree ((here ++ [name]) :: inside) known next names (.ok (later, there))) :
    (tree.fresh inside ((here ++ [name], there) :: later)).length <
      (tree.fresh inside known).length := by
  have listed : here ++ [name] ∈ tree.fresh inside known :=
    mem_fresh.2 ⟨mem_links (link.stands straight), outside, new⟩
  calc (tree.fresh inside ((here ++ [name], there) :: later)).length
    _ = (tree.fresh ((here ++ [name]) :: inside) later).length := by rw [← fresh_close]
    _ ≤ (tree.fresh ((here ++ [name]) :: inside) known).length := by
      refine (List.monotone_filter_right _ fun other still => ?_).length_le
      simp only [Bool.and_eq_true, Option.isNone_iff_eq_none] at still ⊢
      exact ⟨still.1, led.keeps rfl still.2⟩
    _ < (tree.fresh inside known).length := by
      rw [fresh_enter]
      exact length_without_lt listed

/-- Whether names have an outcome wherever fewer links are new than a number. -/
def EndsBelow (tree : Tree) (count : Nat) : Prop :=
  ∀ inside known here names, (tree.fresh inside known).length < count → tree.Straight here →
    tree.Remembers known → tree.Ahead inside here names →
    ∃ outcome, Resolution tree inside known here names outcome

/-- Names that begin with a link that has not been left have an outcome, if names have one wherever
fewer links are new. -/
theorem LinkAt.exists_resolution (link : tree.LinkAt here name target)
    (straight : tree.Straight here) (remembers : tree.Remembers known)
    (ahead : tree.Ahead inside here (name :: rest)) (new : known.lookup (here ++ [name]) = none)
    (ends : tree.EndsBelow (tree.fresh inside known).length) :
    ∃ outcome, Resolution tree inside known here (name :: rest) outcome := by
  by_cases within : here ++ [name] ∈ inside
  · obtain ⟨fault, absent⟩ := ahead.exists_fault straight link within
    exact ⟨_, .looped rest link new within absent⟩
  by_cases full : deepestLinks ≤ inside.length
  · exact ⟨_, .nested rest link new within full⟩
  have room := Nat.lt_of_not_le full
  have listed : here ++ [name] ∈ tree.fresh inside known :=
    mem_fresh.2 ⟨mem_links (link.stands straight), within, new⟩
  have entered : (tree.fresh ((here ++ [name]) :: inside) known).length <
      (tree.fresh inside known).length := by
    rw [fresh_enter]
    exact length_without_lt listed
  obtain ⟨outcome, led⟩ := ends _ _ _ _ entered (straight.linkStart target) remembers
    (ahead.enter straight link)
  match outcome, led with
  | .error fault, led => exact ⟨_, .lost rest link new within room led⟩
  | .ok (later, there), led =>
    obtain ⟨straightThere, remembersLater, passes⟩ :=
      led.passes rfl (straight.linkStart target) remembers
    have across := passesTo_link link.notHere link.notUp (link.stands straight) passes
    obtain ⟨outcome, further⟩ := ends _ _ _ _ (led.length_fresh_lt link straight new within)
      straightThere (remembersLater.close straight link straightThere passes) (ahead.pass across)
    exact ⟨outcome, .jump link new within room led further⟩

/-- Names have an outcome if names have one wherever fewer links are new. -/
theorem exists_resolution_of_endsBelow (straight : tree.Straight here)
    (remembers : tree.Remembers known) (ahead : tree.Ahead inside here names)
    (ends : tree.EndsBelow (tree.fresh inside known).length) :
    ∃ outcome, Resolution tree inside known here names outcome := by
  induction names generalizing here with
  | nil => exact ⟨_, .done inside known here⟩
  | cons name rest ih =>
    by_cases notHere : name = "."
    · subst notHere
      exact (ih straight (ahead.pass (tree.passesTo_stay here))).imp fun _ => .stay
    by_cases notUp : name = ".."
    · subst notUp
      exact (ih straight.dropLast (ahead.pass (tree.passesTo_up here))).imp fun _ => .up
    cases found : tree.nodeAt (here ++ [name]) with
    | error fault => exact ⟨_, .blocked inside known rest notHere notUp found⟩
    | ok node =>
      by_cases linked : ∃ target, node = .link target
      · obtain ⟨target, rfl⟩ := linked
        have link : tree.LinkAt here name target := ⟨notHere, notUp, found⟩
        cases left : known.lookup (here ++ [name]) with
        | some there =>
          have further :=
            ih (remembers _ there left).1 (ahead.pass (remembers.passesTo straight link left))
          exact further.imp fun _ => .revisit link left
        | none => exact link.exists_resolution straight remembers ahead left ends
      · push Not at linked
        have stands := straight.get?_of_nodeAt notHere notUp found
        have further := ih (straight.concat notHere notUp stands linked)
          (ahead.pass (passesTo_enter notHere notUp stands linked))
        exact further.imp fun _ => .enter notHere notUp found linked

/-- Names have an outcome, whatever the tree. -/
theorem exists_resolution (straight : tree.Straight here) (remembers : tree.Remembers known)
    (ahead : tree.Ahead inside here names) :
    ∃ outcome, Resolution tree inside known here names outcome := by
  have ends (count : Nat) : tree.EndsBelow count := by
    induction count with
    | zero => exact fun _ _ _ _ fewer => absurd fewer (Nat.not_lt_zero _)
    | succ count ih =>
      intro inside known here names fewer straight remembers ahead
      refine exists_resolution_of_endsBelow straight remembers ahead fun _ _ _ _ less => ?_
      exact ih _ _ _ _ (Nat.lt_of_lt_of_le less (Nat.le_of_lt_succ fewer))
  exact exists_resolution_of_endsBelow straight remembers ahead (ends _)

/-! ## The resolution that is carried out -/

/-- No turns have no names. -/
@[simp] theorem namesAhead_nil : namesAhead [] = [] := rfl

/-- A name among the turns is a name ahead. -/
@[simp] theorem namesAhead_name (name : String) (rest : List Turn) :
    namesAhead (.name name :: rest) = name :: namesAhead rest := rfl

/-- Closing a link is no name. -/
@[simp] theorem namesAhead_close (link : Place) (rest : List Turn) :
    namesAhead (.close link :: rest) = namesAhead rest := rfl

/-- The names of two rows of turns. -/
@[simp] theorem namesAhead_append (front rest : List Turn) :
    namesAhead (front ++ rest) = namesAhead front ++ namesAhead rest :=
  List.filterMap_append

/-- The names of turns that are all names. -/
@[simp] theorem namesAhead_map (names : List String) : namesAhead (names.map .name) = names := by
  induction names with
  | nil => rfl
  | cons name rest ih => rw [List.map_cons, namesAhead_name, ih]

/-- A strict resolution enters a link if there is room for another one. -/
theorem follow_enter (link : tree.LinkAt here name target) (straight : tree.Straight here)
    (new : known.lookup (here ++ [name]) = none) (outside : here ++ [name] ∉ inside)
    (room : inside.length < deepestLinks) (turns : List Turn) :
    tree.follow true (deepestLinks - inside.length) (tree.fresh inside known) known here
        (.name name :: turns) =
      tree.follow true (deepestLinks - ((here ++ [name]) :: inside).length)
        (tree.fresh ((here ++ [name]) :: inside) known) known (linkStart target here)
        ((linkSteps target).map .name ++ .close (here ++ [name]) :: turns) := by
  have listed : here ++ [name] ∈ tree.fresh inside known :=
    mem_fresh.2 ⟨mem_links (link.stands straight), outside, new⟩
  obtain ⟨less, spare⟩ : ∃ less, deepestLinks - inside.length = less + 1 :=
    Nat.exists_eq_succ_of_ne_zero (Nat.sub_ne_zero_of_lt room)
  have inner : deepestLinks - ((here ++ [name]) :: inside).length = less := by
    rw [List.length_cons]
    omega
  rw [follow, if_neg link.notHere, if_neg link.notUp, inner, fresh_enter]
  simp only [link.found, new, dif_pos listed, spare]

/-- A strict resolution leaves a link that it has entered. -/
theorem follow_close (tree : Tree) (inside : List Place) (known : Known) (link here : Place)
    (room : inside.length < deepestLinks) (turns : List Turn) :
    tree.follow true (deepestLinks - (link :: inside).length) (tree.fresh (link :: inside) known)
        known here (.close link :: turns) =
      tree.follow true (deepestLinks - inside.length) (tree.fresh inside ((link, here) :: known))
        ((link, here) :: known) here turns := by
  have spare : deepestLinks - (link :: inside).length + 1 = deepestLinks - inside.length := by
    rw [List.length_cons]
    omega
  rw [follow, fresh_close, spare]

/-- What a strict resolution does with further turns after names with an outcome. -/
def goOn (tree : Tree) (inside : List Place) (turns : List Turn) :
    Except FileFault (Known × Place) → Except FileFault Place
  | .ok (later, there) =>
    tree.follow true (deepestLinks - inside.length) (tree.fresh inside later) later there turns
  | .error fault => .error fault

/-- A strict resolution of names goes on from their outcome. -/
theorem Resolution.follow_eq (resolution : Resolution tree inside known here names outcome)
    (straight : tree.Straight here) (remembers : tree.Remembers known) (turns : List Turn) :
    tree.follow true (deepestLinks - inside.length) (tree.fresh inside known) known here
        (names.map .name ++ turns) =
      tree.goOn inside turns outcome := by
  induction resolution generalizing turns with
  | done => rfl
  | stay _ ih =>
    rw [List.map_cons, List.cons_append, follow, if_pos rfl]
    exact ih straight remembers turns
  | up _ ih =>
    rw [List.map_cons, List.cons_append, follow, if_neg (by decide), if_pos rfl]
    exact ih straight.dropLast remembers turns
  | enter notHere notUp found noLink _ ih =>
    have stands := straight.get?_of_nodeAt notHere notUp found
    rw [List.map_cons, List.cons_append, follow_of_unlinked notHere notUp found noLink]
    exact ih (straight.concat notHere notUp stands noLink) remembers turns
  | blocked _ _ _ notHere notUp absent =>
    rw [List.map_cons, List.cons_append, follow, if_neg notHere, if_neg notUp]
    simp only [absent, Bool.true_or, if_true]
    rfl
  | revisit link left _ ih =>
    rw [List.map_cons, List.cons_append, follow, if_neg link.notHere, if_neg link.notUp]
    simp only [link.found, left]
    exact ih (remembers _ _ left).1 remembers turns
  | @jump inside _ _ _ _ _ target _ _ link new outside room led _ ihLed ih =>
    obtain ⟨straightThere, remembersLed, passes⟩ := led.passes rfl (straight.linkStart target) remembers
    rw [List.map_cons, List.cons_append, follow_enter link straight new outside room,
      ihLed (straight.linkStart target) remembers, goOn, follow_close _ _ _ _ _ room]
    exact ih straightThere (remembersLed.close straight link straightThere passes) turns
  | @lost _ _ _ _ target _ _ link new outside room _ ihLed =>
    rw [List.map_cons, List.cons_append, follow_enter link straight new outside room,
      ihLed (straight.linkStart target) remembers]
    rfl
  | @looped inside known here name _ fault _ link new within absent =>
    have entered : here ++ [name] ∉ tree.fresh inside known := fun listed =>
      (mem_fresh.1 listed).2.1 within
    rw [List.map_cons, List.cons_append, follow, if_neg link.notHere, if_neg link.notUp]
    simp only [link.found, new, dif_neg entered, if_true, loopFault, absent]
    cases fault <;> rfl
  | @nested inside known here name _ _ link new outside full =>
    have listed : here ++ [name] ∈ tree.fresh inside known :=
      mem_fresh.2 ⟨mem_links (link.stands straight), outside, new⟩
    rw [List.map_cons, List.cons_append, follow, if_neg link.notHere, if_neg link.notUp]
    simp only [link.found, new, dif_pos listed, Nat.sub_eq_zero_of_le full]
    rfl

/-! ## Resolving a path -/

/-- Whether a path resolves to another one. -/
def Resolves (tree : Tree) (path resolved : Path) : Prop :=
  ∃ known place, Resolution tree [] [] [] path.names (.ok (known, place)) ∧
    resolved = .ofNames place

/-- Whether a path fails to resolve with a fault. -/
def Breaks (tree : Tree) (path : Path) (fault : FileFault) : Prop :=
  Resolution tree [] [] [] path.names (.error fault)

variable {path resolvedPath : Path}

/-- A strict resolution finds the outcome of its path. -/
theorem Resolution.resolveStrict_eq (resolution : Resolution tree [] [] [] path.names outcome) :
    tree.resolveStrict path = outcome.map fun found => .ofNames found.2 := by
  have followed := resolution.follow_eq tree.straight_nil tree.remembers_nil []
  rw [fresh_start, List.append_nil] at followed
  rw [resolveStrict, resolve, show deepestLinks = deepestLinks - [].length from rfl, followed]
  cases outcome with
  | error fault => rfl
  | ok found => rw [goOn, follow, Except.map, Except.map]

/-- Every path has an outcome. -/
theorem exists_outcome (tree : Tree) (path : Path) :
    ∃ outcome, Resolution tree [] [] [] path.names outcome :=
  exists_resolution tree.straight_nil tree.remembers_nil (tree.ahead_nil [] path.names)

/-- A path is resolved to where it leads. -/
theorem resolveStrict_eq_ok_iff :
    tree.resolveStrict path = .ok resolvedPath ↔ tree.Resolves path resolvedPath := by
  constructor
  · intro resolved
    obtain ⟨outcome, resolution⟩ := tree.exists_outcome path
    rw [resolution.resolveStrict_eq] at resolved
    obtain ⟨⟨known, place⟩, rfl, same⟩ := Runs.map_eq_ok.1 resolved
    exact ⟨known, place, resolution, same.symm⟩
  · rintro ⟨known, place, resolution, rfl⟩
    exact resolution.resolveStrict_eq

/-- A path fails to resolve with the fault that is met on its way. -/
theorem resolveStrict_eq_error_iff :
    tree.resolveStrict path = .error fault ↔ tree.Breaks path fault := by
  constructor
  · intro failed
    obtain ⟨outcome, resolution⟩ := tree.exists_outcome path
    rw [resolution.resolveStrict_eq] at failed
    match outcome, resolution with
    | .error other, resolution =>
      cases failed
      exact resolution
    | .ok found, _ => cases failed
  · intro breaks
    exact breaks.resolveStrict_eq

end Tree

end LintBench
