import LintBench.Keyed

/-!
# TOML values

The values of a configuration document. Of numbers and of points in time only
their kind is kept: nothing that a document of this library asks for is one of
them, and a fault in their place is told by the kind alone.
-/

namespace LintBench.Toml

/-- The kinds of values. -/
inductive Kind where
  /-- A text. -/
  | text
  /-- A whole number. -/
  | integer
  /-- A number with a fraction or an exponent, or one that is not finite. -/
  | decimal
  /-- A truth value. -/
  | bool
  /-- Values in a row. -/
  | list
  /-- Values by key. -/
  | table
  /-- A day. -/
  | date
  /-- A day and a time of day. -/
  | dateTime
  /-- A time of day. -/
  | time
deriving DecidableEq, Repr, Inhabited

/-- The value of a document or of a part of it. -/
inductive Value where
  /-- A text. -/
  | text (value : String)
  /-- A truth value. -/
  | bool (value : Bool)
  /-- Values in a row. -/
  | list (items : List Value)
  /-- Values by key. -/
  | table (members : List (String × Value))
  /-- A number or a point in time. -/
  | scalar (kind : Kind)
deriving Repr, Inhabited

/-- The members of a table. -/
abbrev Table := List (String × Value)

namespace Value

/-- The kind of a value. -/
def kind : Value → Kind
  | .text _ => .text
  | .bool _ => .bool
  | .list _ => .list
  | .table _ => .table
  | .scalar kind => kind

/-- Whether a value holds other values. -/
def isContainer : Value → Bool
  | .list _ | .table _ => true
  | .text _ | .bool _ | .scalar _ => false

/-- The text that a value is, if it is one. -/
def text? : Value → Option String
  | .text value => some value
  | _ => none

end Value

/-- Change the table that a row of keys leads to; tables that are missing on the way are made.
`throughLists` lets a key lead into the last table of a list. Nothing comes of it if the way leads
through another value, or if the change is refused. -/
def updateAt (throughLists : Bool) (change : Table → Option Table) :
    List String → Table → Option Table
  | [], table => change table
  | key :: keys, table =>
    match (Keyed.get? table key).getD (.table []) with
    | .table inner =>
      (updateAt throughLists change keys inner).map fun inner => Keyed.set table key (.table inner)
    | .list items =>
      match throughLists, items.getLast? with
      | true, some (.table inner) =>
        (updateAt throughLists change keys inner).map fun inner =>
          Keyed.set table key (.list (items.dropLast ++ [.table inner]))
      | _, _ => none
    | _ => none

/-- A table with one more member, unless it has one of that key. -/
def insertNew (key : String) (value : Value) (table : Table) : Option Table :=
  if Keyed.has table key then none else some (Keyed.set table key value)

/-- A table with an empty table more in the list of a key; a list that is missing is made. -/
def appendTable (key : String) (table : Table) : Option Table :=
  match Keyed.get? table key with
  | none => some (Keyed.set table key (.list [.table []]))
  | some (.list items) => some (Keyed.set table key (.list (items ++ [.table []])))
  | some _ => none

end LintBench.Toml
