/-!
# Maps in insertion order

A map from texts is the list of its entries in the order in which their keys
first came. Setting a key that is present keeps its place; a new key goes last.
-/

namespace LintBench

/-- Entries by key, in the order in which the keys first came. -/
abbrev Keyed (α : Type) := List (String × α)

namespace Keyed

variable {α : Type}

/-- The value under a key. -/
def get? : Keyed α → String → Option α
  | [], _ => none
  | (k, value) :: rest, key => if k = key then some value else get? rest key

/-- Whether a key has a value. -/
def has (entries : Keyed α) (key : String) : Bool := (get? entries key).isSome

/-- The keys, in order. -/
def keys (entries : Keyed α) : List String := entries.map Prod.fst

/-- Give a key the value that `change` makes of the present one. -/
def update (entries : Keyed α) (key : String) (change : Option α → α) : Keyed α :=
  match entries with
  | [] => [(key, change none)]
  | (k, value) :: rest =>
    if k = key then (k, change (some value)) :: rest else (k, value) :: update rest key change

/-- Give a key a value. -/
def set (entries : Keyed α) (key : String) (value : α) : Keyed α :=
  update entries key fun _ => value

/-- Give a key a value unless it has one. -/
def setDefault (entries : Keyed α) (key : String) (value : α) : Keyed α :=
  update entries key fun present => present.getD value

/-- Entries with others set on top of them, in order. -/
def overlay (entries others : Keyed α) : Keyed α :=
  others.foldl (fun entries (key, value) => set entries key value) entries

/-- Change the value of a key that is present. -/
def adjust (entries : Keyed α) (key : String) (change : α → α) : Keyed α :=
  entries.map fun (k, value) => if k = key then (k, change value) else (k, value)

/-- Nothing has a value in the empty map. -/
@[simp] theorem get?_nil (key : String) : get? ([] : Keyed α) key = none := rfl

/-- The first entry of a key counts. -/
theorem get?_cons (k key : String) (value : α) (rest : Keyed α) :
    get? ((k, value) :: rest) key = if k = key then some value else get? rest key := rfl

/-- An update shows under its own key and nowhere else. -/
theorem get?_update (entries : Keyed α) (key other : String) (change : Option α → α) :
    get? (update entries key change) other =
      if key = other then some (change (get? entries key)) else get? entries other := by
  induction entries with
  | nil => simp [update, get?]
  | cons head rest ih =>
    obtain ⟨k, value⟩ := head
    by_cases same : k = key <;> by_cases asked : k = other <;>
      simp_all [update, get?, eq_comm]

/-- A value that was set is found again, and no other key is touched. -/
theorem get?_set (entries : Keyed α) (key other : String) (value : α) :
    get? (set entries key value) other = if key = other then some value else get? entries other :=
  get?_update entries key other _

/-- The keys after an update: the same ones, with a new key last. -/
theorem keys_update (entries : Keyed α) (key : String) (change : Option α → α) :
    keys (update entries key change) =
      if key ∈ keys entries then keys entries else keys entries ++ [key] := by
  induction entries with
  | nil => simp [update, keys]
  | cons head rest ih =>
    obtain ⟨k, value⟩ := head
    by_cases same : k = key
    · simp [update, keys, same]
    · simp only [keys] at ih
      by_cases member : key ∈ rest.map Prod.fst <;>
        simp_all [update, keys, eq_comm]

/-- A key has a value exactly when it is listed. -/
theorem get?_eq_none_iff (entries : Keyed α) (key : String) :
    get? entries key = none ↔ key ∉ keys entries := by
  induction entries with
  | nil => simp [keys]
  | cons head rest ih =>
    obtain ⟨k, value⟩ := head
    by_cases same : k = key <;> simp_all [get?, keys, eq_comm]

end Keyed

end LintBench
