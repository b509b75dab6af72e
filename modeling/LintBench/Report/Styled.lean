/-!
# Styled text

A text for a terminal is a row of pieces, each in a style. A console makes a text of
them, as the terminal asks for it.
-/

namespace LintBench

/-- The colours of a terminal. -/
inductive Colour where
  /-- Black. -/
  | black
  /-- Red. -/
  | red
  /-- Green. -/
  | green
  /-- Yellow. -/
  | yellow
  /-- Blue. -/
  | blue
  /-- The brighter red. -/
  | brightRed
deriving DecidableEq, Repr, Inhabited

/-- How a piece of text looks. -/
structure Style where
  /-- Whether its letters are heavy. -/
  bold : Bool := false
  /-- Whether it is underlined. -/
  underlined : Bool := false
  /-- The colour of its letters. -/
  letters : Option Colour := none
  /-- The colour behind them. -/
  ground : Option Colour := none
deriving DecidableEq, Repr, Inhabited

/-- A piece of text in a style. -/
structure Piece where
  /-- Its look. -/
  style : Style := {}
  /-- Its characters. -/
  text : List Char
deriving DecidableEq, Repr, Inhabited

/-- A piece in a style. -/
def styled (style : Style) (text : String) : Piece := { style, text := text.toList }

/-- A piece without a style. -/
def plain (text : String) : Piece := { text := text.toList }

/-- What makes a text of a row of pieces, its last line ended. -/
abbrev Console := List Piece → String

end LintBench
