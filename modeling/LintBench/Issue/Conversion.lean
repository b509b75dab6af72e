import LintBench.Issue.Document

/-!
# Converting Marvin results

The Marvin runner names the parts of an issue differently and nests them
further. Every part may be missing; the end of a position is always given. A
location that is no object counts as missing, where any other part of the wrong
shape is a fault.
-/

namespace LintBench

/-- Why a document of the Marvin runner is not converted. -/
inductive MarvinFault where
  /-- The issues are nothing that has items. -/
  | noItems
  /-- An issue is no object. -/
  | invalidIssue (value : Value)
  /-- The location of an issue is no object. -/
  | invalidLocation (value : Value)
  /-- The position in a location is no object. -/
  | invalidPosition (value : Value)
  /-- A line or column is no whole number. -/
  | number (fault : NumberFault)
deriving Repr

/-- What is told about a document that is not converted, where the library has words of its
own. -/
def MarvinFault.message? : MarvinFault → Option String
  | .invalidIssue value => some ("Invalid issue in Marvin result: " ++ value.quoted)
  | .invalidLocation value => some ("Invalid location in Marvin result: " ++ value.quoted)
  | .invalidPosition value => some ("Invalid position in Marvin result: " ++ value.quoted)
  | .noItems | .number _ => none

namespace Marvin

/-- A key as a value of its own. -/
def keyValue : MemberKey → Value
  | .text name => .text name
  | .bytes name => .bytes name

/-- The items that a value has when it is gone through: a text has its characters, bytes have
their values, an object has its keys, and an extension has its code and its data. -/
def items? : Value → Option (List Value)
  | .list items => some items
  | .text value => some (value.letters.map fun letter => .text ⟨[letter]⟩)
  | .bytes value => some (value.map fun byte => .integer byte.toNat)
  | .object members => some (members.map fun (key, _) => keyValue key)
  | .extension code data => some [.integer code, .bytes data]
  | .null | .bool _ | .integer _ | .decimal _ | .timestamp _ _ => none

/-- The members of an object, where nothing counts as an empty one. -/
def membersOr (fault : Value → MarvinFault) : Value →
    Except MarvinFault (List (MemberKey × Value))
  | .null => .ok []
  | .object members => .ok members
  | value => .error (fault value)

/-- A location; what is no object has neither line nor column. -/
def location : Value → Except MarvinFault Location
  | .object members => (Location.ofMembers members).mapError .number
  | _ => .ok {}

/-- Convert one issue. -/
def issue : Value → Except MarvinFault Issue
  | .object members => do
    let place ← membersOr .invalidLocation (Value.memberOrNull members "location")
    let position ← membersOr .invalidPosition (Value.memberOrNull place "position")
    let start ← location (Value.memberOrNull position "begin")
    let stop ← location (Value.memberOrNull position "end")
    return {
      code := (Value.memberOrNull members "issue_code").textOrEmpty
      title := (Value.memberOrNull members "issue_text").textOrEmpty
      position :=
        { file := (Value.memberOrNull place "path").textOrEmpty, start, stop := some stop } }
  | value => .error (.invalidIssue value)

/-- Convert the issues of a document. -/
def issues (members : List (MemberKey × Value)) : Except MarvinFault (List Issue) :=
  match items? ((Value.memberOrNull members "issues").orElse (.list [])) with
  | some items => items.mapM issue
  | none => .error .noItems

end Marvin

end LintBench
