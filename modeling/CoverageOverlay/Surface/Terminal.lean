-- SUMMARY: The terminal renderer, which repaints the screen frame by frame.
import CoverageOverlay.Drawing.Markup
import CoverageOverlay.Surface.Basic
import CoverageOverlay.Surface.Renderer
import CoverageOverlay.Text.Utf8

/-!
# Terminals

A terminal shows a set by writing a frame: the drawn document, with a line feed
at its end. A frame is written over an earlier one only after the screen was
cleared; the first frame must not clear it, so that output into a file holds
nothing but the frame. Plain markup never clears.
-/

namespace CoverageOverlay

/-- A renderer that writes frames on a surface. -/
structure Terminal where
  composition : Composition
  markup : Markup
  /-- Whether a whole frame stands on the screen. -/
  painted : Bool
  surface : Surface
deriving DecidableEq, Repr, Inhabited

namespace Terminal

/-- The sequences that clear the screen and move to its corner. -/
def clearScreen : Text :=
  [escape, '[', '2', 'J', escape, '[', 'H']

/-- A terminal that has shown nothing yet. -/
def new (markup : Markup) (composition : Composition) : Terminal :=
  ⟨composition, markup, false, .empty⟩

/-- Write a text on the surface. -/
def write (t : Terminal) (text : Text) : Except Error Unit × Terminal :=
  let (result, surface) := t.surface.write (Utf8.encode text)
  (result.mapError .io, { t with surface })

/-- Clear the screen if a frame stands on it. -/
def clear (t : Terminal) : Except Error Unit × Terminal :=
  if t.painted ∧ t.markup = .ansi then
    match t.write clearScreen with
    | (.ok (), t) => (.ok (), { t with painted := false })
    | failed => failed
  else (.ok (), { t with painted := false })

/-- The line feed that a drawn document needs at its end. -/
def lineEnd (drawn : Text) : Text :=
  if drawn.getLast? = some '\n' then [] else ['\n']

/-- Flush the surface; then a whole frame stands on the screen. -/
def finish (t : Terminal) : Except Error Unit × Terminal :=
  match t.surface.flush with
  | .ok () => (.ok (), { t with painted := true })
  | .error fault => (.error (.io fault), t)

/-- Run a step if the one before it went well. -/
def andThen (step : Except Error Unit × Terminal) (next : Terminal → Except Error Unit × Terminal) :
    Except Error Unit × Terminal :=
  match step with
  | (.ok (), t) => next t
  | failed => failed

/-- Show a set over a document in place of the frame that stands on the screen. -/
def apply (t : Terminal) (document : Text) (set : CoverageSet) : Except Error Unit × Terminal :=
  let drawn := set.draw document t.composition t.markup
  andThen t.clear fun t =>
    andThen (t.write drawn) fun t =>
      andThen (t.write (lineEnd drawn)) finish

instance : Renderer Terminal where
  apply := apply
  clear := clear

end Terminal

end CoverageOverlay
