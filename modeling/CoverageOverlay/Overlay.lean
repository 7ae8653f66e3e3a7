-- SUMMARY: A renderer bound to settings: load a document, resolve its records, show them.
import CoverageOverlay.Annotation.Resolution
import CoverageOverlay.Document
import CoverageOverlay.Settings
import CoverageOverlay.Surface.Renderer

/-!
# Overlays

An overlay shows documents through a renderer. A set is complete before the
renderer is touched: while a document or its records cannot be read, whatever
is shown stays as it is.
-/

namespace CoverageOverlay

/-- What became of an attempt to show a document. -/
inductive Outcome
  /-- The renderer shows so many annotations. -/
  | applied (annotations : Nat)
  /-- There is no record file at the path; the renderer was left alone. -/
  | missing (coverage : Path)
deriving DecidableEq, Repr, Inhabited

/-- A renderer with the settings by which it shows documents. -/
structure Overlay (ρ : Type) where
  settings : Settings
  renderer : ρ
deriving DecidableEq, Repr, Inhabited

namespace Overlay

variable {ρ : Type} [Renderer ρ]

/-- Show a document that was read. -/
def applyDocument (o : Overlay ρ) (d : Document) : Logged (Except Error Outcome × Overlay ρ) := do
  let set ← CoverageSet.ofText d.coverage d.length
  match Renderer.apply o.renderer d.text set with
  | (.error e, renderer) => return (.error e, { o with renderer })
  | (.ok (), renderer) =>
    Logged.report (.applied set.length d.coveragePath)
    return (.ok (.applied set.length), { o with renderer })

/-- Read a document with its records and show it in place of whatever is shown. -/
def apply (o : Overlay ρ) (files : Files) (document : Path) :
    Logged (Except Error Outcome × Overlay ρ) := do
  match ← Document.load files document o.settings.suffix with
  | .error (.coverageNotFound coverage _) =>
    Logged.report (.applySkipped coverage)
    return (.ok (.missing coverage), o)
  | .error e => return (.error e, o)
  | .ok d => o.applyDocument d

/-- Remove whatever is shown. -/
def clear (o : Overlay ρ) : Except Error Unit × Overlay ρ :=
  let (result, renderer) := Renderer.clear o.renderer
  (result, { o with renderer })

end Overlay

end CoverageOverlay
