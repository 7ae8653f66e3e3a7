-- SUMMARY: Settings from the settings file of a directory.
import CoverageOverlay.Error
import CoverageOverlay.Files.View
import CoverageOverlay.Log.Logged
import CoverageOverlay.Settings.Schema
import CoverageOverlay.Text.Utf8

/-!
# Loading settings

A directory without a settings file has the standard settings. A settings file
that is there is binding: if it cannot be read, is no text or is malformed, the
operation stops; it never falls back to the standard settings.
-/

namespace CoverageOverlay.Settings

variable [Toml.Explains]

/-- The settings in the bytes of the settings file `file`. -/
def ofBytes (file : Path) (bytes : List UInt8) : Logged (Except Error Settings) :=
  match Utf8.decode? bytes with
  | none => pure (.error (.io .notText))
  | some t =>
    match parse t with
    | .error explanation => pure (.error (.settingsMalformed explanation))
    | .ok s => do
      Logged.report (.settingsLoaded file s.suffix)
      return .ok s

/-- The settings of a directory. -/
def load (files : Files) (directory : Path) : Logged (Except Error Settings) :=
  let file := directory.child fileName
  match files.read file with
  | .error .notFound => pure (.ok standard)
  | .error fault => pure (.error (.io fault))
  | .ok bytes => ofBytes file bytes

end CoverageOverlay.Settings
