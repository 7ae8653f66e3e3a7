-- SUMMARY: What an apply finds when it reads a document, and what it does with it.
import CoverageOverlay.Overlay

/-!
# One apply

An apply reads two files and comes to one of three findings: there is no
document, there is a document without records, or both can be read. Only in the
last case does the renderer take part. Everything that is proved of applies in
a run goes back to these three cases.
-/

namespace CoverageOverlay

namespace Document

/-- The annotations of a document that was read. -/
def annotations (d : Document) : CoverageSet :=
  (CoverageSet.ofText d.coverage d.length).value

end Document

namespace Overlay

variable {ρ : Type} [Renderer ρ] {o : Overlay ρ} {files : Files} {document : Path} {d : Document}

/-- Where there is no document, the overlay stays as it is. -/
theorem apply_absent (o : Overlay ρ) (hdocument : ¬files.Readable document) :
    (o.apply files document).value = (.error (.documentNotFound document), o) := by
  simp only [apply, Logged.bind_value, Document.load_absent hdocument]
  rfl

/-- Where there are no records, the overlay stays as it is. -/
theorem apply_uncovered (o : Overlay ρ) (hdocument : files.Readable document)
    (hcoverage : ¬files.Readable (Document.coveragePathOf document o.settings.suffix)) :
    (o.apply files document).value =
      (.ok (.missing (Document.coveragePathOf document o.settings.suffix)), o) := by
  simp only [apply, Logged.bind_value, Document.load_uncovered hdocument hcoverage]
  rfl

/-- A document that was read with its records is handed to the renderer. -/
theorem apply_covered (o : Overlay ρ)
    (hload : (Document.load files document o.settings.suffix).value = .ok d) :
    (o.apply files document).value =
      match Renderer.apply o.renderer d.text d.annotations with
      | (.error e, renderer) => (.error e, { o with renderer })
      | (.ok (), renderer) => (.ok (.applied d.annotations.length), { o with renderer }) := by
  simp only [apply, Logged.bind_value, hload, applyDocument, Document.annotations]
  generalize Renderer.apply o.renderer d.text (CoverageSet.ofText d.coverage d.length).value = shown
  obtain ⟨_ | _, renderer⟩ := shown <;> rfl

/-- An apply that does not find both files leaves the renderer as it is. -/
theorem apply_of_not_readable (o : Overlay ρ)
    (h : ¬(files.Readable document ∧
      files.Readable (Document.coveragePathOf document o.settings.suffix))) :
    (o.apply files document).value.2 = o := by
  by_cases hdocument : files.Readable document
  · rw [o.apply_uncovered hdocument fun hcoverage => h ⟨hdocument, hcoverage⟩]
  · rw [o.apply_absent hdocument]

/-- No apply changes settings. -/
theorem settings_apply (o : Overlay ρ) (files : Files) (document : Path) :
    (o.apply files document).value.2.settings = o.settings := by
  by_cases hfiles : files.Readable document ∧
      files.Readable (Document.coveragePathOf document o.settings.suffix)
  · obtain ⟨d, hload⟩ := Document.exists_load_iff.2 hfiles
    rw [o.apply_covered hload]
    generalize Renderer.apply o.renderer d.text d.annotations = shown
    obtain ⟨_ | _, renderer⟩ := shown <;> rfl
  · rw [o.apply_of_not_readable hfiles]

end Overlay

end CoverageOverlay
