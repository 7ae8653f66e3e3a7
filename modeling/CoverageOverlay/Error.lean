-- SUMMARY: Everything that can stop the library, as causes with their wording.
import CoverageOverlay.Files.Fault
import CoverageOverlay.Files.Path

/-!
# Errors

Errors come from getting at resources only: documents, record files, settings,
surfaces. Malformed records and ranges that do not fit are never errors.
-/

namespace CoverageOverlay

/-- Why an operation stopped. -/
inductive Error
  /-- The record file of a document cannot be read. -/
  | coverageNotFound (coverage document : Path)
  /-- The document cannot be read. -/
  | documentNotFound (document : Path)
  /-- The system, or a surface, refused. -/
  | io (fault : Fault)
  /-- Settings are malformed; the explanation says where and why. -/
  | settingsMalformed (explanation : Text)
  /-- Changes of files cannot be followed. -/
  | watchFailed (reason : String)
deriving DecidableEq, Repr, Inhabited

/-- The words for an error. -/
def Error.message : Error → String
  | coverageNotFound coverage document =>
    s!"no coverage records for {document.text}: {coverage.text} not found"
  | documentNotFound document => s!"document not found: {document.text}"
  | io fault => s!"io: {fault.message}"
  | settingsMalformed explanation => s!"toml deserialize: {String.ofList explanation}"
  | watchFailed reason => s!"watch failed: {reason}"

end CoverageOverlay
