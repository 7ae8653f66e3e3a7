-- SUMMARY: What a watch does with a document: the first apply and re-applies.
import CoverageOverlay.Diagnostic
import CoverageOverlay.Overlay
import CoverageOverlay.Watch.Event
import CoverageOverlay.Watch.Loop

/-!
# Watching a document

A watch shows a document once and then again after every burst of changes to
the document or to its record file. A failure of the first apply ends the
watch; later failures are reported, and what is shown stays.
-/

namespace CoverageOverlay.Watch

/-! ## Applying -/

variable {ρ : Type} [Renderer ρ]

/-- The warning that a document has no record file. -/
def warning (coverage : Path) : Text :=
  "warning: no coverage records at ".toList ++ coverage.chars
    ++ ", keeping previous overlay\n".toList

/-- Show a document; a missing record file is worth a warning. -/
def applyOnce (o : Overlay ρ) (files : Files) (document : Path) :
    Logged (Except Error Text × Overlay ρ) := do
  match ← o.apply files document with
  | (.error e, o) => return (.error e, o)
  | (.ok (.missing coverage), o) => return (.ok (warning coverage), o)
  | (.ok (.applied _), o) => return (.ok [], o)

/-- The first apply, after which changes are followed. -/
def start (o : Overlay ρ) (files : Files) (document : Path) :
    Logged (Except Error Text × Overlay ρ) := do
  match ← applyOnce o files document with
  | (.error e, o) => return (.error e, o)
  | (.ok warnings, o) =>
    Logged.report (.watching (directoryOf document))
    return (.ok warnings, o)

/-- A later apply: the messages for people, whatever happened. -/
def reapply (o : Overlay ρ) (files : Files) (document : Path) : Logged (Text × Overlay ρ) := do
  Logged.report (.changeDetected document)
  match ← applyOnce o files document with
  | (.error e, o) => return (e.shown, o)
  | (.ok warnings, o) => return (warnings, o)

/-- The later applies over the states of the files that they find. -/
def reapplyAll (o : Overlay ρ) (document : Path) : List Files → Logged (Text × Overlay ρ)
  | [] => pure ([], o)
  | files :: rest => do
    let (messages, o) ← reapply o files document
    (fun (more, o) => (messages ++ more, o)) <$> reapplyAll o document rest

end CoverageOverlay.Watch
