-- SUMMARY: Documents with their cells written as marked runs of text.
import CoverageOverlay.Drawing.Cells

/-!
# Markup

A drawn document is its text with markers around the characters that have a
state. Neighbours in one state share a pair of markers. Two kinds of markup
exist: terminal colours, and braces that name the style.
-/

namespace CoverageOverlay

/-- How covered text is marked. -/
inductive Markup
  /-- A colour sequence before and a reset sequence after. -/
  | ansi
  /-- A brace with the style token before and a brace after. -/
  | plain
deriving DecidableEq, Repr, Inhabited

/-- The character that begins a terminal sequence. -/
def escape : Char := '\x1b'

/-- The parameter of the colour sequence of a state. -/
def State.colour : State → Text
  | bothBranchesTaken => ['3', '6']
  | conditionalizedOut => ['9', '0']
  | executed => ['3', '2']
  | neitherBranchTaken => ['3', '5']
  | notExecuted => ['3', '1']
  | notInstrumented => ['2']
  | oneBranchTaken => ['3', '3']

namespace Markup

/-- The marker before text in a state. -/
def opening : Markup → State → Text
  | ansi, s => escape :: '[' :: s.colour ++ ['m']
  | plain, s => '{' :: s.style.toList ++ [' ']

/-- The marker after text in a state. -/
def closing : Markup → Text
  | ansi => [escape, '[', '0', 'm']
  | plain => ['}']

/-- The marker that starts a run of cells. -/
def openRun (m : Markup) : Cell → Text
  | none => []
  | some s => m.opening s

/-- The marker that ends a run of cells. -/
def closeRun (m : Markup) : Cell → Text
  | none => []
  | some _ => m.closing

/-- The markers where a cell follows another: none inside a run. -/
def between (m : Markup) (before after : Cell) : Text :=
  if after = before then [] else m.closeRun before ++ m.openRun after

/-- Write characters with their cells after the cell `before`; no run is left open. -/
def drawFrom (m : Markup) (before : Cell) : List (Char × Cell) → Text
  | [] => m.between before none
  | (c, cell) :: rest => m.between before cell ++ c :: drawFrom m cell rest

end Markup

/-- A document drawn with the annotations of a set. -/
def CoverageSet.draw (set : CoverageSet) (document : Text) (composition : Composition)
    (markup : Markup) : Text :=
  markup.drawFrom none (document.zip (set.cells document.length composition))

end CoverageOverlay
