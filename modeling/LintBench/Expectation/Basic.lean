import LintBench.Keyed
import LintBench.Text.Loose

/-!
# Expectations

An expectation lists the issues an analyzer is expected to raise for one line of
a fixture, by issue code. Each code carries the details expected of it, and a
mark that tells whether the code was raised.
-/

namespace LintBench

/-- One expected occurrence of an issue code. -/
structure Detail where
  /-- The expected column; zero accepts any column. -/
  column : Int := 0
  /-- The expected message; the empty text accepts any message. -/
  message : String := ""
  /-- Whether a reported issue has met this expectation. -/
  hit : Bool := false
deriving DecidableEq, Repr, Inhabited

/-- The expectation that every occurrence of a code meets. -/
def Detail.anything : Detail := {}

/-- Whether a reported column and message meet the expectation. -/
def Detail.accepts (detail : Detail) (column : Int) (message : LooseText) : Bool :=
  (detail.column == 0 || detail.column == column)
    && (detail.message == "" || LooseText.ofString detail.message == message)

/-- The expected issues of one line. -/
structure Expectation where
  /-- The details expected of each code; none means that the code is expected, nothing more. -/
  details : Keyed (List Detail) := []
  /-- The codes seen so far, each with a mark that tells whether it was raised. -/
  raised : Keyed Bool := []
  /-- Whether the expectation stood on a line of its own. -/
  fromCommentLine : Bool := false
  /-- Whether a trailing comment has taken in an expectation from the line above it. -/
  folded : Bool := false
deriving DecidableEq, Repr, Inhabited

namespace Expectation

/-- The expectation that expects nothing. -/
def empty : Expectation := {}

/-- Expect further details of a code. -/
def add (expectation : Expectation) (code : String) (details : List Detail) : Expectation :=
  { expectation with
    details := Keyed.update expectation.details code fun present => present.getD [] ++ details
    raised := Keyed.setDefault expectation.raised code false }

/-- Take in another expectation: its details go after the present ones of the same code, and a
code counts as raised if it does on either side. -/
def merge (expectation other : Expectation) : Expectation :=
  { expectation with
    details := other.details.foldl
      (fun merged (code, details) =>
        Keyed.update merged code fun present => present.getD [] ++ details)
      expectation.details
    raised := other.raised.foldl
      (fun merged (code, hit) => Keyed.update merged code fun present => present.getD false || hit)
      expectation.raised }

/-- Mark a code as raised, or as not raised. -/
def mark (expectation : Expectation) (code : String) (hit : Bool) : Expectation :=
  { expectation with raised := Keyed.set expectation.raised code hit }

/-- Mark one detail of a code as met. -/
def markDetail (expectation : Expectation) (code : String) (index : Nat) : Expectation :=
  { expectation with
    details := Keyed.adjust expectation.details code fun details =>
      details.modify index fun detail => { detail with hit := true } }

/-- Whether two maps have the same entries, in whatever order. -/
def sameEntries {α : Type} [BEq α] (left right : Keyed α) : Bool :=
  left.length == right.length
    && left.all fun (key, value) => Keyed.get? right key == some value

/-- Whether two expectations expect the same and have the same marks; the order of codes and the
place they come from are left out. -/
def same (left right : Expectation) : Bool :=
  sameEntries left.details right.details && sameEntries left.raised right.raised

/-- Taking in nothing changes nothing. -/
@[simp] theorem merge_empty (expectation : Expectation) :
    expectation.merge empty = expectation := rfl

end Expectation

end LintBench
