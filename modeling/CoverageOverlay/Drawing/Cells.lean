-- SUMMARY: The state in which each character of a document is drawn.
import CoverageOverlay.Annotation.Basic

/-!
# Cells

A cell is the state in which one character is drawn, or none where no
annotation covers the character. Annotations are painted in their order; where
several cover one character, the composition says whether the earliest or the
latest is seen. Parts of an annotation outside the document paint nothing.
-/

namespace CoverageOverlay

/-- Which of several annotations of one character is seen. -/
inductive Composition
  | first
  | last
deriving DecidableEq, Repr, Inhabited

/-- The name of a composition in settings. -/
def Composition.name : Composition → String
  | first => "first"
  | last => "last"

/-- Every composition. -/
def Composition.all : List Composition := [.first, .last]

/-- The state in which a character is drawn, if an annotation covers it. -/
abbrev Cell := Option State

namespace Cell

/-- Paint a state on one cell. -/
def paint (cell : Cell) (composition : Composition) (s : State) : Cell :=
  match composition, cell with
  | .first, some earlier => some earlier
  | _, _ => some s

end Cell

namespace Annotation

/-- The zero-based indices of the first cell that an annotation paints and of the one behind the last,
in a document of `length` characters. The end is cut off at the end of the document; an annotation that
begins behind that, or behind its own end, paints nothing. -/
def stretch? (a : Annotation) (length : Nat) : Option (Nat × Nat) :=
  let first := a.start.toNat - 1
  let stop := min (a.stop.toNat - 1) length
  if first ≤ stop then some (first, stop) else none

/-- Paint an annotation on the cells of a document. -/
def paintOn (a : Annotation) (composition : Composition) (cells : List Cell) : List Cell :=
  match a.stretch? cells.length with
  | none => cells
  | some (first, stop) =>
    cells.take first
      ++ ((cells.take stop).drop first).map (fun cell => cell.paint composition a.state)
      ++ cells.drop stop

end Annotation

/-- The cells of a document of `length` characters under the annotations of a set. -/
def CoverageSet.cells (set : CoverageSet) (length : Nat) (composition : Composition) : List Cell :=
  set.foldl (fun cells a => a.paintOn composition cells) (List.replicate length none)

end CoverageOverlay
