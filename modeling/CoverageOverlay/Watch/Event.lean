-- SUMMARY: Which directory is watched for a document, and which of the reported changes are signalled.
import CoverageOverlay.Document
import CoverageOverlay.Files.Tree

/-!
# Changes that are signalled

One directory is watched, the one that holds the document, without the
directories inside it. The system reports what happens to its entries; a report
of a change is worth a signal if a changed entry has the name of the document or
of its record file.
-/

namespace CoverageOverlay.Watch

/-- The directory that is watched for a document. -/
def directoryOf (document : Path) : Path :=
  match document.parent? with
  | some p => if p.chars = [] then ⟨['.']⟩ else p
  | none => ⟨['.']⟩

/-- The files whose changes matter. -/
def watchedPaths (document : Path) (suffix : Text) : List Path :=
  [document, Document.coveragePathOf document suffix]

/-- Whether a change of an entry of the watched directory matters: names are compared, because the same
entry may be spelled in several ways. -/
def isWatched (changed : Path) (watched : List Path) : Bool :=
  watched.any fun p => p.fileName? = changed.fileName?

/-! ## Reports of the system -/

/-- What happened to the entries that a report names. -/
inductive Kind
  /-- Something, and the system does not know what. -/
  | any
  /-- They were read, opened or closed. -/
  | access
  | create
  | modify
  | remove
  /-- Something that concerns the watch itself. -/
  | other
deriving DecidableEq, Repr, Inhabited

/-- Whether entries or their contents are not what they were. -/
def Kind.isChange : Kind → Bool
  | create | modify | remove => true
  | any | access | other => false

/-- A report of the system on some entries, by their paths. -/
structure Event where
  kind : Kind
  paths : List Path
deriving DecidableEq, Repr, Inhabited

/-- Whether a report is passed on as a signal. A report that there was an error is not. -/
def sends (watched : List Path) : Except String Event → Bool
  | .ok event => event.kind.isChange && event.paths.any (isWatched · watched)
  | .error _ => false

/-! ## Changes and their reports -/

/-- A change of some entries, each by its directory and its name. -/
structure Change (δ : Type) where
  kind : Kind
  entries : List (δ × Name)
deriving DecidableEq, Repr, Inhabited

namespace Change

variable {δ : Type} [DecidableEq δ]

/-- What is reported of a change to a watch of a directory that was asked for by the path `spelling`: the
entries that stand in the directory itself, if there are any. -/
def report? (c : Change δ) (directory : δ) (spelling : Path) : Option Event :=
  match c.entries.filter (·.1 = directory) with
  | [] => none
  | here => some ⟨c.kind, here.map fun (_, n) => spelling.child n⟩

/-- Whether a change signals to a watch of a directory. -/
def signals (c : Change δ) (directory : δ) (spelling : Path) (watched : List Path) : Bool :=
  (c.report? directory spelling).any fun event => sends watched (.ok event)

end Change

/-! ## Changes of a tree -/

/-- The places at which two trees differ. -/
def differences (before after : FileTree) : List Place :=
  ((before.entries ++ after.entries).map (·.1)).filter fun place =>
    before.entry? place ≠ after.entry? place

/-- The change of the entry at a place. -/
def changeAt? (place : Place) : Option (Change Place) :=
  place.getLast?.map fun n => ⟨.modify, [(place.dropLast, n)]⟩

/-- Whether changes at some places signal to the watch of a document whose directory is at
`directory`. -/
def signals (directory : Place) (watched : List Path) (changed : List Place) : Bool :=
  changed.any fun place =>
    (changeAt? place).any fun c => c.signals directory (Path.ofNames directory) watched

end CoverageOverlay.Watch
