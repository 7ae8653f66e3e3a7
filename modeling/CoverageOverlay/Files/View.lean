-- SUMMARY: What the library needs to know of a file system.
import CoverageOverlay.Files.Fault
import CoverageOverlay.Files.Path

/-!
# Views of a file system

Everything that is read comes through a view: the answers of a file system, at
one moment, to the three questions that are asked of it.
-/

namespace CoverageOverlay

/-- The answers of a file system at one moment. -/
structure Files where
  /-- The bytes of the file that a path leads to. -/
  read : Path → Except Fault (List UInt8)
  /-- Whether a path leads to something. -/
  present : Path → Bool
  /-- The regular files below a directory, each by the names of the steps that lead to it. Links below
  the directory are not followed. A path that leads to a regular file has that file alone below it, with
  no step. -/
  below : Path → List (List Name)

namespace Files

/-- The view that answers from what was read beforehand; nothing else is there. -/
def ofReads (reads : List (Path × Except Fault (List UInt8))) (below : Path → List (List Name)) :
    Files where
  read p := (reads.lookup p).getD (.error .notFound)
  present p :=
    match reads.lookup p with
    | none | some (.error .notFound) | some (.error .notDirectory) => false
    | some _ => true
  below := below

/-- A path leads to a file with contents. -/
def Readable (files : Files) (p : Path) : Prop :=
  ∃ bytes, files.read p = .ok bytes

theorem not_readable_iff {files : Files} {p : Path} :
    ¬files.Readable p ↔ ∃ fault, files.read p = .error fault := by
  simp only [Readable]
  cases files.read p <;> simp

end Files

end CoverageOverlay
