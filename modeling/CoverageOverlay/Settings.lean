-- SUMMARY: The settings of a project and the choice of documents for summaries.
import CoverageOverlay.Drawing.Cells
import CoverageOverlay.Text.Basic

/-!
# Settings

Settings say how overlapping annotations compose, where the record file of a
document is, and which documents of a directory are summarized. The two lists
of path beginnings are matched against the spelling of paths.
-/

namespace CoverageOverlay

/-- The settings of a project. -/
structure Settings where
  /-- Which of several annotations of one character is seen. -/
  composition : Composition
  /-- What the path of a record file adds to the path of its document. -/
  suffix : Text
  /-- The beginnings of paths that are summarized; all paths are if there is none. -/
  included : List Text
  /-- The beginnings of paths that are left out. -/
  excluded : List Text
deriving DecidableEq, Repr, Inhabited

namespace Settings

/-- The settings where none are given. -/
def standard : Settings :=
  ⟨.last, ['.', 'c', 'o', 'v'], [], []⟩

/-- The name of the file that holds settings. -/
def fileName : Text := ".covlay.toml".toList

/-- Whether a document is summarized, by its path from the summarized directory. -/
def shouldScan (s : Settings) (path : Text) : Bool :=
  (s.included.isEmpty || s.included.any path.startsWith) && !s.excluded.any path.startsWith

end Settings

end CoverageOverlay
