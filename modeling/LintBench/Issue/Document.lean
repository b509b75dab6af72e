import LintBench.Document.Value
import LintBench.Issue.Basic

/-!
# Issues as documents

An analyzer's result is an object with a list of issues. A missing part of an
issue has a default; a part of the wrong shape is a fault of the issue, told
with the whole issue in its text. The one number that no issue can hold, and
that is no fault of its shape, is an infinite line or column.
-/

namespace LintBench

/-- Why a document is no result of an analyzer. -/
inductive ResultFault where
  /-- The document is no object. -/
  | notObject
  /-- The issues are no list. -/
  | issuesNotList
  /-- An issue is no object, or its code is no text. -/
  | invalidIssue (issue : Value)
  /-- The position of an issue has the wrong shape. -/
  | invalidPosition (issue : Value)
  /-- A line or column is infinite. -/
  | infiniteNumber
deriving Repr

/-- What is told about a result that is not read, where the library has words of its own. -/
def ResultFault.message? : ResultFault → Option String
  | .notObject => some "Analysis result must be a JSON object with an 'issues' list"
  | .issuesNotList => some "'issues' in the analysis result must be a list"
  | .invalidIssue issue => some ("Invalid issue in analysis result: " ++ issue.quoted)
  | .invalidPosition issue =>
    some ("Invalid issue position in analysis result: " ++ issue.quoted)
  | .infiniteNumber => none

/-- A value, or a default in place of a missing one. -/
def Value.orElse (value default : Value) : Value := if value.isMissing then default else value

/-- Read a location from the members of an object. -/
def Location.ofMembers (members : List (MemberKey × Value)) : Except NumberFault Location := do
  let line ← (Value.memberOrNull members "line").integerOrZero
  let column ← (Value.memberOrNull members "column").integerOrZero
  return { line, column }

/-- Read a location; what is no object is a value of the wrong type. -/
def Location.ofValue : Value → Except NumberFault Location
  | .object members => Location.ofMembers members
  | _ => .error .wrongType

/-- Read the position of an issue. -/
def Position.ofValue : Value → Except NumberFault Position
  | .object members => do
    let start ← Location.ofValue ((Value.memberOrNull members "start").orElse (.object []))
    let stop ← match Value.memberOrNull members "end" with
      | .null => pure none
      | value => some <$> Location.ofValue value
    return { file := (Value.memberOrNull members "file").textOrEmpty, start, stop }
  | _ => .error .wrongType

/-- Read an issue. -/
def Issue.ofValue (value : Value) : Except ResultFault Issue :=
  match value with
  | .object members =>
    match Value.memberOrNull members "code" with
    | .text code =>
      let position := (Value.memberOrNull members "position").orElse (.object [])
      match Position.ofValue position with
      | .ok position =>
        .ok { code, title := (Value.memberOrNull members "title").textOrEmpty, position }
      | .error .infinite => .error .infiniteNumber
      | .error _ => .error (.invalidPosition value)
    | _ => .error (.invalidIssue value)
  | _ => .error (.invalidIssue value)

/-- Read the issues of a result. -/
def issuesOfValue (document : Value) : Except ResultFault (List Issue) :=
  match document with
  | .object members =>
    match (Value.memberOrNull members "issues").orElse (.list []) with
    | .list items => items.mapM Issue.ofValue
    | _ => .error .issuesNotList
  | _ => .error .notObject

/-- An object from members with texts for keys. -/
def Value.ofMembers (members : List (String × Value)) : Value :=
  .object (members.map fun (key, value) => (.text (.ofString key), value))

/-- A location as a document. -/
def Location.toValue (location : Location) : Value :=
  .ofMembers [("line", .integer location.line), ("column", .integer location.column)]

/-- A position as a document, without its resolved path. -/
def Position.toValue (position : Position) : Value :=
  .ofMembers [("file", .text position.file), ("start", position.start.toValue),
    ("end", match position.stop with
      | some stop => stop.toValue
      | none => .null)]

/-- An issue as a document. -/
def Issue.toValue (issue : Issue) : Value :=
  .ofMembers [("code", .text issue.code), ("title", .text issue.title),
    ("position", issue.position.toValue)]

/-- A result as a document. -/
def resultOfIssues (issues : List Issue) : Value :=
  .ofMembers [("issues", .list (issues.map Issue.toValue))]

end LintBench
