import LintBench.Keyed
import Mathlib.Data.List.Nodup

/-!
# Laws of maps in insertion order

A map is fixed by its keys in their order and by what it answers to each lookup,
as long as no key is listed twice. Runs of updates are described the same way:
their keys come in the order of first use, and each key sees only its own
updates.
-/

namespace LintBench.Keyed

variable {α β : Type}

/-- A key is listed exactly when it has a value. -/
theorem mem_keys_iff (entries : Keyed α) (key : String) :
    key ∈ keys entries ↔ ∃ value, get? entries key = some value := by
  have absent := get?_eq_none_iff entries key
  cases found : get? entries key <;> simp_all

/-- With distinct keys, what a lookup finds is exactly what is listed. -/
theorem get?_eq_some_iff {entries : Keyed α} (distinct : (keys entries).Nodup) (key : String)
    (value : α) : get? entries key = some value ↔ (key, value) ∈ entries := by
  induction entries with
  | nil => simp
  | cons head rest ih =>
    obtain ⟨k, present⟩ := head
    simp only [keys, List.map_cons, List.nodup_cons] at distinct
    rw [get?_cons, List.mem_cons, Prod.mk.injEq]
    by_cases same : k = key
    · subst same
      have unlisted : (k, value) ∉ rest := fun member =>
        distinct.1 (List.mem_map_of_mem member)
      simp [unlisted, eq_comm]
    · rw [if_neg same, ih distinct.2]
      simp [Ne.symm same]

/-- Two maps with the same distinct keys in the same order and the same answers are equal. -/
theorem ext_get? {left right : Keyed α} (distinct : (keys left).Nodup)
    (sameKeys : keys left = keys right) (sameValues : ∀ key, get? left key = get? right key) :
    left = right := by
  induction left generalizing right with
  | nil => exact (List.map_eq_nil_iff.1 sameKeys.symm).symm
  | cons head rest ih =>
    obtain ⟨k, value⟩ := head
    cases right with
    | nil => simp [keys] at sameKeys
    | cons other others =>
      obtain ⟨k', value'⟩ := other
      simp only [keys, List.map_cons, List.cons.injEq, List.nodup_cons] at sameKeys distinct
      obtain ⟨rfl, sameRest⟩ := sameKeys
      have headValue := sameValues k
      simp only [get?_cons, if_true, Option.some.injEq] at headValue
      have restValues : ∀ key, get? rest key = get? others key := by
        intro key
        by_cases same : k = key
        · subst same
          rw [(get?_eq_none_iff rest k).2 distinct.1,
            (get?_eq_none_iff others k).2 (by rw [keys, ← sameRest]; exact distinct.1)]
        · simpa [get?_cons, same] using sameValues key
      rw [headValue, ih distinct.2 sameRest restValues]

/-- A map with distinct keys whose values are known from the keys. -/
theorem eq_map_keys {entries : Keyed α} (distinct : (keys entries).Nodup) {valueOf : String → α}
    (shows : ∀ key ∈ keys entries, get? entries key = some (valueOf key)) :
    entries = (keys entries).map fun key => (key, valueOf key) := by
  rw [keys, List.map_map]
  refine (List.map_id _).symm.trans (List.map_congr_left fun entry member => ?_)
  obtain ⟨key, value⟩ := entry
  have listed := shows key (List.mem_map_of_mem member)
  rw [(get?_eq_some_iff distinct key value).2 member, Option.some.injEq] at listed
  simp [listed]

/-- An update keeps distinct keys distinct. -/
theorem nodup_keys_update {entries : Keyed α} (distinct : (keys entries).Nodup) (key : String)
    (change : Option α → α) : (keys (update entries key change)).Nodup := by
  rw [keys_update]
  split
  · exact distinct
  · rename_i unlisted
    exact List.nodup_append.2 ⟨distinct, List.nodup_singleton key, fun k member other last => by
      rw [List.mem_singleton] at last
      rintro rfl
      exact unlisted (last ▸ member)⟩

/-- What holds of all values still holds after an update that keeps it. -/
theorem forall_update {P : α → Prop} {entries : Keyed α} {key : String} {change : Option α → α}
    (each : ∀ entry ∈ entries, P entry.2) (fresh : P (change none))
    (changed : ∀ value, P value → P (change (some value))) :
    ∀ entry ∈ update entries key change, P entry.2 := by
  induction entries with
  | nil => exact List.forall_mem_singleton.2 fresh
  | cons head rest ih =>
    obtain ⟨own, others⟩ := List.forall_mem_cons.1 each
    rw [update]
    split
    · exact List.forall_mem_cons.2 ⟨changed _ own, others⟩
    · exact List.forall_mem_cons.2 ⟨own, ih others⟩

/-- Updating a key that has no value puts it last. -/
theorem update_of_absent {entries : Keyed α} {key : String} (absent : key ∉ keys entries)
    (change : Option α → α) : update entries key change = entries ++ [(key, change none)] := by
  induction entries with
  | nil => rfl
  | cons head rest ih =>
    obtain ⟨k, value⟩ := head
    simp only [keys, List.map_cons, List.mem_cons, not_or] at absent
    rw [update, if_neg (Ne.symm absent.1), ih absent.2, List.cons_append]

/-- What a map given by its keys shows. -/
theorem get?_map_keys (listed : List String) (valueOf : String → α) (asked : String) :
    get? (listed.map fun key => (key, valueOf key)) asked =
      if asked ∈ listed then some (valueOf asked) else none := by
  induction listed with
  | nil => simp
  | cons key rest ih =>
    rw [List.map_cons, get?_cons, ih]
    by_cases same : key = asked
    · simp [same]
    · simp [same, Ne.symm same]

/-! ## Changing values in place -/

/-- A change of every value leaves the keys. -/
@[simp] theorem keys_map_value (change : String → α → β) (entries : Keyed α) :
    keys (entries.map fun (key, value) => (key, change key value)) = keys entries := by
  simp [keys, Function.comp_def]

/-- A change of every value shows under every key. -/
theorem get?_map_value (change : String → α → β) (entries : Keyed α) (key : String) :
    get? (entries.map fun (key, value) => (key, change key value)) key =
      (get? entries key).map (change key) := by
  induction entries with
  | nil => rfl
  | cons head rest ih =>
    obtain ⟨k, value⟩ := head
    simp only [List.map_cons, get?_cons, ih]
    split
    · rename_i same
      simp [same]
    · rfl

/-- An adjustment is a change of every value that leaves all but one as they are. -/
theorem adjust_eq_map_value (entries : Keyed α) (key : String) (change : α → α) :
    adjust entries key change =
      entries.map fun (k, value) => (k, if k = key then change value else value) := by
  simp only [adjust]
  exact List.map_congr_left fun (k, value) _ => by by_cases same : k = key <;> simp [same]

/-- An adjustment leaves the keys. -/
@[simp] theorem keys_adjust (entries : Keyed α) (key : String) (change : α → α) :
    keys (adjust entries key change) = keys entries := by
  rw [adjust_eq_map_value, keys_map_value fun k value => if k = key then change value else value]

/-- An adjustment shows under its own key and nowhere else. -/
theorem get?_adjust (entries : Keyed α) (key asked : String) (change : α → α) :
    get? (adjust entries key change) asked =
      (get? entries asked).map fun value => if asked = key then change value else value := by
  rw [adjust_eq_map_value, get?_map_value fun k value => if k = key then change value else value]

/-- Setting a key that is present changes its value in place. -/
theorem set_eq_adjust {entries : Keyed α} (distinct : (keys entries).Nodup) {key : String}
    {value : α} (found : get? entries key = some value) (change : α → α) :
    set entries key (change value) = adjust entries key change := by
  have member : key ∈ keys entries := (mem_keys_iff entries key).2 ⟨value, found⟩
  have keysAfter : keys (set entries key (change value)) = keys entries := by
    rw [set, keys_update, if_pos member]
  apply ext_get?
  · rwa [keysAfter]
  · rw [keysAfter, keys_adjust]
  · intro asked
    rw [get?_set, get?_adjust]
    by_cases same : key = asked
    · subst same
      simp [found]
    · simp [same, Ne.symm same]

/-- An adjustment that leaves the value of its key as it is changes nothing. -/
theorem adjust_of_fixed {entries : Keyed α} (distinct : (keys entries).Nodup) {key : String}
    {change : α → α} (fixed : ∀ value, get? entries key = some value → change value = value) :
    adjust entries key change = entries := by
  rw [adjust_eq_map_value]
  refine (List.map_congr_left fun (k, value) member => ?_).trans (List.map_id _)
  by_cases same : k = key
  · subst same
    simp [fixed value ((get?_eq_some_iff distinct k value).2 member)]
  · simp [same]

/-- Adjusting a key after giving it a default is one update. -/
theorem adjust_setDefault {entries : Keyed α} (distinct : (keys entries).Nodup) (key : String)
    (value : α) (change : α → α) :
    adjust (setDefault entries key value) key change =
      update entries key fun present => change (present.getD value) := by
  have keysAfter : keys (update entries key fun present => change (present.getD value)) =
      keys (setDefault entries key value) := by
    rw [setDefault, keys_update, keys_update]
  apply ext_get?
  · rw [keys_adjust]
    exact nodup_keys_update distinct key _
  · rw [keys_adjust, keysAfter]
  · intro asked
    rw [get?_adjust, setDefault, get?_update, get?_update]
    by_cases same : key = asked
    · subst same
      simp
    · simp [same, Ne.symm same]

/-! ## Runs of updates -/

variable (keyOf : β → String) (change : β → Option α → α)

/-- A run of updates keeps distinct keys distinct. -/
theorem nodup_keys_foldl_update (items : List β) {entries : Keyed α}
    (distinct : (keys entries).Nodup) :
    (keys (items.foldl (fun map item => update map (keyOf item) (change item)) entries)).Nodup := by
  induction items generalizing entries with
  | nil => exact distinct
  | cons item rest ih => exact ih (nodup_keys_update distinct (keyOf item) (change item))

/-- After a run of updates the keys stand in the order of their first use. -/
theorem keys_foldl_update (items : List β) {entries : Keyed α} (distinct : (keys entries).Nodup) :
    keys (items.foldl (fun map item => update map (keyOf item) (change item)) entries) =
      keys entries ++ ((items.map keyOf).removeAll (keys entries)).eraseDups := by
  induction items generalizing entries with
  | nil => simp [List.removeAll]
  | cons item rest ih =>
    rw [List.foldl_cons, ih (nodup_keys_update distinct _ _), keys_update]
    split
    · rename_i listed
      simp [List.removeAll, listed]
    · rename_i unlisted
      simp only [List.map_cons, List.removeAll, List.append_assoc, List.singleton_append,
        List.elem_eq_mem, List.mem_append, List.mem_singleton, Bool.decide_or, Bool.not_or]
      rw [List.filter_cons_of_pos (by simpa using unlisted), List.eraseDups_cons,
        List.filter_filter]
      congr 4
      funext key
      by_cases same : key = keyOf item <;> simp [same, Bool.and_comm]

/-- After a run of updates each key shows what its own updates made of it, one after another. -/
theorem get?_foldl_update (items : List β) (entries : Keyed α) (asked : String) :
    get? (items.foldl (fun map item => update map (keyOf item) (change item)) entries) asked =
      (items.filter fun item => keyOf item = asked).foldl
        (fun present item => some (change item present)) (get? entries asked) := by
  induction items generalizing entries with
  | nil => rfl
  | cons item rest ih =>
    rw [List.foldl_cons, ih, get?_update]
    by_cases same : keyOf item = asked
    · simp [same]
    · simp [same]

/-! ## Combining two maps -/

/-- A list without repetitions is left as it is when repetitions are dropped. -/
theorem eraseDups_of_nodup {keys : List String} (distinct : keys.Nodup) :
    keys.eraseDups = keys := by
  induction keys with
  | nil => rfl
  | cons key rest ih =>
    rw [List.nodup_cons] at distinct
    have others : rest.filter (fun other => !other == key) = rest :=
      List.filter_eq_self.2 fun other member => by
        have : other ≠ key := fun same => distinct.1 (same ▸ member)
        simp [this]
    rw [List.eraseDups_cons, others, ih distinct.2]

/-- With distinct keys, at most one entry has a given key. -/
theorem filter_key {entries : Keyed α} (distinct : (keys entries).Nodup) (key : String) :
    entries.filter (fun entry => entry.1 = key) =
      ((get? entries key).map fun value => (key, value)).toList := by
  induction entries with
  | nil => rfl
  | cons head rest ih =>
    obtain ⟨k, value⟩ := head
    simp only [keys, List.map_cons, List.nodup_cons] at distinct
    rw [get?_cons]
    by_cases same : k = key
    · subst same
      have absent := (get?_eq_none_iff rest k).2 distinct.1
      rw [List.filter_cons_of_pos (by simp), ih distinct.2, absent]
      simp
    · rw [List.filter_cons_of_neg (by simpa using same), ih distinct.2, if_neg same]

/-- Join the values of another map to those of a map, key by key; a key that is new starts from
`unit`. -/
def combine (join : α → α → α) (unit : α) (entries others : Keyed α) : Keyed α :=
  others.foldl
    (fun map entry => update map entry.1 fun present => join (present.getD unit) entry.2) entries

variable (join : α → α → α) (unit : α)

/-- Combining keeps the keys of the first map and puts the new ones of the second after them. -/
theorem keys_combine {entries others : Keyed α} (distinct : (keys entries).Nodup)
    (distinctOthers : (keys others).Nodup) :
    keys (combine join unit entries others) =
      keys entries ++ (keys others).removeAll (keys entries) := by
  rw [combine, keys_foldl_update Prod.fst
    (fun entry present => join (present.getD unit) entry.2) others distinct]
  have newKeys : ((keys others).removeAll (keys entries)).Nodup := distinctOthers.filter _
  exact congrArg (keys entries ++ ·) (eraseDups_of_nodup newKeys)

/-- Combining keeps distinct keys distinct. -/
theorem nodup_keys_combine {entries : Keyed α} (distinct : (keys entries).Nodup)
    (others : Keyed α) : (keys (combine join unit entries others)).Nodup :=
  nodup_keys_foldl_update Prod.fst
    (fun entry present => join (present.getD unit) entry.2) others distinct

/-- A key of a combined map shows the join of what the two maps have under it. -/
theorem get?_combine (entries : Keyed α) {others : Keyed α} (distinct : (keys others).Nodup)
    (key : String) :
    get? (combine join unit entries others) key =
      match get? others key with
      | none => get? entries key
      | some value => some (join ((get? entries key).getD unit) value) := by
  rw [combine, get?_foldl_update Prod.fst
    (fun entry present => join (present.getD unit) entry.2), filter_key distinct]
  cases get? others key <;> rfl

/-- A key of a combined map is a key of one of the two. -/
theorem mem_keys_of_combine {entries others : Keyed α} {key : String}
    (member : key ∈ keys (combine join unit entries others)) :
    key ∈ keys entries ∨ key ∈ keys others := by
  induction others generalizing entries with
  | nil => exact .inl member
  | cons entry rest ih =>
    rcases ih member with early | late
    · rw [keys_update] at early
      split at early
      · exact .inl early
      · rw [List.mem_append, List.mem_singleton] at early
        exact early.imp_right fun (same : key = entry.1) => same ▸ List.mem_cons_self
    · exact .inr (List.mem_cons_of_mem _ late)

/-- What holds of all values of two maps holds of those of the combined map, if joining keeps it. -/
theorem forall_combine {P : α → Prop} (start : P unit) (joined : ∀ x y, P x → P y → P (join x y))
    {entries others : Keyed α} (own : ∀ entry ∈ entries, P entry.2)
    (other : ∀ entry ∈ others, P entry.2) :
    ∀ entry ∈ combine join unit entries others, P entry.2 := by
  induction others generalizing entries with
  | nil => exact own
  | cons entry rest ih =>
    obtain ⟨first, later⟩ := List.forall_mem_cons.1 other
    exact ih (forall_update own (joined _ _ start first) fun value kept => joined _ _ kept first)
      later

/-- A combined map has the keys of both. -/
theorem mem_keys_combine {entries others : Keyed α} (distinct : (keys entries).Nodup)
    (distinctOthers : (keys others).Nodup) (key : String) :
    key ∈ keys (combine join unit entries others) ↔ key ∈ keys entries ∨ key ∈ keys others := by
  rw [keys_combine join unit distinct distinctOthers]
  by_cases own : key ∈ keys entries <;> simp [List.removeAll, own]

/-- Maps that are combined the one way and the other have the same keys. -/
theorem perm_keys_combine {entries others : Keyed α} (distinct : (keys entries).Nodup)
    (distinctOthers : (keys others).Nodup) :
    (keys (combine join unit entries others)).Perm (keys (combine join unit others entries)) := by
  have once := nodup_keys_combine join unit distinct others
  have onceOther := nodup_keys_combine join unit distinctOthers entries
  apply (List.perm_ext_iff_of_nodup once onceOther).2
  intro key
  rw [mem_keys_combine join unit distinct distinctOthers,
    mem_keys_combine join unit distinctOthers distinct]
  exact or_comm

/-- What nothing is combined with stays as it is. -/
theorem combine_nil_left (unit_join : ∀ x, join unit x = x) {others : Keyed α}
    (distinct : (keys others).Nodup) : combine join unit [] others = others := by
  have none : (keys ([] : Keyed α)).Nodup := List.nodup_nil
  have sameKeys : keys (combine join unit [] others) = keys others := by
    rw [keys_combine join unit none distinct]
    simp [keys, List.removeAll]
  apply ext_get? (nodup_keys_combine join unit none others) sameKeys
  intro key
  rw [get?_combine join unit [] distinct]
  cases get? others key with
  | none => rfl
  | some value => simp [unit_join]

/-- If joins of two values the one way and the other are alike, so is what maps show that are
combined the one way and the other. -/
theorem rel_get?_combine {Alike : α → α → Prop} (refl : ∀ x, Alike x x)
    (comm : ∀ x y, Alike (join x y) (join y x)) (unit_join : ∀ x, join unit x = x)
    {entries others : Keyed α} (distinct : (keys entries).Nodup)
    (distinctOthers : (keys others).Nodup) (key : String) :
    Option.Rel Alike (get? (combine join unit entries others) key)
      (get? (combine join unit others entries) key) := by
  rw [get?_combine join unit entries distinctOthers, get?_combine join unit others distinct]
  have alone (value : α) : Alike value (join unit value) ∧ Alike (join unit value) value := by
    rw [unit_join]
    exact ⟨refl value, refl value⟩
  cases get? entries key with
  | none =>
    cases get? others key with
    | none => exact .none
    | some other => exact .some (alone other).2
  | some value =>
    cases get? others key with
    | none => exact .some (alone value).1
    | some other => exact .some (comm value other)

/-- It does not matter which of two neighbouring combinations is made first, if the same holds of
the join of values. -/
theorem combine_assoc (assoc : ∀ x y z, join (join x y) z = join x (join y z))
    (unit_join : ∀ x, join unit x = x) {first second third : Keyed α}
    (distinctFirst : (keys first).Nodup) (distinctSecond : (keys second).Nodup)
    (distinctThird : (keys third).Nodup) :
    combine join unit (combine join unit first second) third =
      combine join unit first (combine join unit second third) := by
  have both := nodup_keys_combine join unit distinctFirst second
  have later := nodup_keys_combine join unit distinctSecond third
  apply ext_get? (nodup_keys_combine join unit both third)
  · rw [keys_combine join unit both distinctThird,
      keys_combine join unit distinctFirst distinctSecond,
      keys_combine join unit distinctFirst later,
      keys_combine join unit distinctSecond distinctThird]
    simp only [List.removeAll, List.filter_append, List.filter_filter, List.append_assoc]
    congr 2
    apply List.filter_congr
    intro key _
    by_cases inFirst : key ∈ keys first <;> by_cases inSecond : key ∈ keys second <;>
      simp [inFirst, inSecond]
  · intro key
    rw [get?_combine join unit _ distinctThird, get?_combine join unit _ distinctSecond,
      get?_combine join unit _ later, get?_combine join unit _ distinctThird]
    cases get? third key <;> cases get? second key <;> simp [assoc, unit_join]

end LintBench.Keyed
