-- SUMMARY: Documents with their companion record files, read through a view of the file system.
import CoverageOverlay.Error
import CoverageOverlay.Files.View
import CoverageOverlay.Log.Logged
import CoverageOverlay.Text.Utf8

/-!
# Documents

The record file of a document stands beside it under the document's path with a
suffix. Both are read as bytes and decoded without fail, and the length of a
document is the number of characters of the decoded text, so that no position
of a record can be off because of bytes that are no UTF-8.
-/

namespace CoverageOverlay

/-- A document and its records, as they were read. -/
structure Document where
  text : Text
  /-- The text of the record file. -/
  coverage : Text
  coveragePath : Path
deriving DecidableEq, Repr, Inhabited

namespace Document

/-- Where the record file of a document is. -/
def coveragePathOf (document : Path) (suffix : Text) : Path :=
  document.append suffix

/-- The number of characters of a text as a 64-bit number. -/
def lengthOf (text : Text) : UInt64 :=
  UInt64.ofNat (min text.length (UInt64.size - 1))

/-- The number of characters of a document. -/
def length (d : Document) : UInt64 :=
  lengthOf d.text

/-- Read a document and then its record file. -/
def load (files : Files) (document : Path) (suffix : Text) : Logged (Except Error Document) :=
  match files.read document with
  | .error _ => pure (.error (.documentNotFound document))
  | .ok bytes =>
    let coveragePath := coveragePathOf document suffix
    match files.read coveragePath with
    | .error fault => do
      Logged.report (.coverageUnreadable coveragePath fault)
      return .error (.coverageNotFound coveragePath document)
    | .ok coverage =>
      pure (.ok ⟨Utf8.decodeLossy bytes, Utf8.decodeLossy coverage, coveragePath⟩)

/-! ## What reading comes to -/

variable {files : Files} {document : Path} {suffix : Text}

/-- What reading a document comes to, and when. -/
inductive Finding (files : Files) (document : Path) (suffix : Text) :
    Except Error Document → Prop
  | absent (hdocument : ¬files.Readable document) :
    Finding files document suffix (.error (.documentNotFound document))
  | uncovered (hdocument : files.Readable document)
    (hcoverage : ¬files.Readable (coveragePathOf document suffix)) :
    Finding files document suffix
      (.error (.coverageNotFound (coveragePathOf document suffix) document))
  | covered {bytes coverage : List UInt8} (hdocument : files.read document = .ok bytes)
    (hcoverage : files.read (coveragePathOf document suffix) = .ok coverage) :
    Finding files document suffix
      (.ok ⟨Utf8.decodeLossy bytes, Utf8.decodeLossy coverage, coveragePathOf document suffix⟩)

theorem finding_load (files : Files) (document : Path) (suffix : Text) :
    Finding files document suffix (load files document suffix).value := by
  cases hdocument : files.read document with
  | error fault =>
    simp only [load, hdocument]
    exact .absent (Files.not_readable_iff.2 ⟨fault, hdocument⟩)
  | ok bytes =>
    cases hcoverage : files.read (coveragePathOf document suffix) with
    | error fault =>
      simp only [load, hdocument, hcoverage]
      exact .uncovered ⟨bytes, hdocument⟩ (Files.not_readable_iff.2 ⟨fault, hcoverage⟩)
    | ok coverage =>
      simp only [load, hdocument, hcoverage]
      exact .covered hdocument hcoverage

theorem load_absent (hdocument : ¬files.Readable document) :
    (load files document suffix).value = .error (.documentNotFound document) := by
  have hfinding := finding_load files document suffix
  generalize (load files document suffix).value = loaded at hfinding ⊢
  cases hfinding with
  | absent _ => rfl
  | uncovered hreadable _ => exact absurd hreadable hdocument
  | covered hreadable _ => exact absurd ⟨_, hreadable⟩ hdocument

theorem load_uncovered (hdocument : files.Readable document)
    (hcoverage : ¬files.Readable (coveragePathOf document suffix)) :
    (load files document suffix).value =
      .error (.coverageNotFound (coveragePathOf document suffix) document) := by
  have hfinding := finding_load files document suffix
  generalize (load files document suffix).value = loaded at hfinding ⊢
  cases hfinding with
  | absent habsent => exact absurd hdocument habsent
  | uncovered _ _ => rfl
  | covered _ hreadable => exact absurd ⟨_, hreadable⟩ hcoverage

/-- A document is read together with its records exactly if there are both files. -/
theorem exists_load_iff :
    (∃ d, (load files document suffix).value = .ok d) ↔
      files.Readable document ∧ files.Readable (coveragePathOf document suffix) := by
  have hfinding := finding_load files document suffix
  generalize (load files document suffix).value = loaded at hfinding ⊢
  cases hfinding with
  | absent hdocument => simp [hdocument]
  | uncovered _ hcoverage => simp [hcoverage]
  | covered hdocument hcoverage => simp [Files.Readable, hdocument, hcoverage]

/-- What is read depends on the two files of a document alone. -/
theorem load_value_congr {files' : Files} (hdocument : files'.read document = files.read document)
    (hcoverage : files'.read (coveragePathOf document suffix) =
      files.read (coveragePathOf document suffix)) :
    (load files' document suffix).value = (load files document suffix).value := by
  simp only [load, hdocument, hcoverage]

end Document

end CoverageOverlay
