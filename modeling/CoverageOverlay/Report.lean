-- SUMMARY: Summaries of all documents below a directory.
import CoverageOverlay.Annotation.Resolution
import CoverageOverlay.Annotation.Summary
import CoverageOverlay.Document
import CoverageOverlay.Settings

/-!
# Reports

A report covers every regular file below a directory that has a record file
beside it, is not a record file itself, and is chosen by the settings. Files
are seen in any order; the reports come in the order of paths. A file that
cannot be read is left out with an event, and nothing stops the walk.
-/

namespace CoverageOverlay

/-- The summary of one document. -/
structure FileReport where
  /-- The path of the document from the summarized directory. -/
  path : Path
  /-- The number of characters of the document. -/
  documentLength : UInt64
  summary : Summary
deriving DecidableEq, Repr, Inhabited

namespace FileReport

/-- The structured form of a report. -/
def toJson (r : FileReport) : Json :=
  .object [
    ("document_length", .number r.documentLength.toNat),
    ("path", .string r.path.chars),
    ("summary", r.summary.toJson)]

/-- The label of a state inside a line. -/
def lowerLabel (s : State) : Text := s.label.toList.map Char.toLower

/-- The line of a report in a text listing. -/
def listingLine (r : FileReport) : Text :=
  r.path.chars ++ '\t' :: Numeral.ofNat r.summary.total ++ " annotations".toList
    ++ r.summary.byState.flatMap (fun (s, n) =>
      [',', ' '] ++ Numeral.ofNat n ++ ' ' :: lowerLabel s)
    ++ ['\n']

/-- The text listing of reports. -/
def listing (reports : List FileReport) : Text :=
  reports.flatMap listingLine

/-- The structured listing of reports. -/
def listingJson (reports : List FileReport) : Json :=
  .array (reports.map toJson)

/-- Whether the file at `path`, called `relative` from the summarized directory, is to be summarized. -/
def isChosen (files : Files) (settings : Settings) (path relative : Path) : Bool :=
  !Text.endsWith path.chars settings.suffix
    && files.present (Document.coveragePathOf path settings.suffix)
    && settings.shouldScan relative.chars

/-- The report on the file that steps lead to below `root`, if there is one. A file that cannot be read
is left out; any other error would stop the walk. -/
def ofFile (files : Files) (settings : Settings) (root : Path) (steps : List Name) :
    Logged (Except Error (Option FileReport)) :=
  let path := root.descend steps
  let relative := Path.ofNames steps
  if isChosen files settings path relative then do
    match ← Document.load files path settings.suffix with
    | .error (.coverageNotFound coverage _) =>
      Logged.report (.coverageSkipped relative coverage)
      return .ok none
    | .error (.documentNotFound document) =>
      Logged.report (.documentSkipped document)
      return .ok none
    | .error e => return .error e
    | .ok d =>
      let set ← CoverageSet.ofText d.coverage d.length
      return .ok (some ⟨relative, d.length, Summary.ofSet set⟩)
  else pure (.ok none)

/-- The reports on some files below `root`, in the order of the files, or the first error. -/
def ofFiles (files : Files) (settings : Settings) (root : Path) :
    List (List Name) → Logged (Except Error (List FileReport))
  | [] => pure (.ok [])
  | steps :: rest => do
    match ← ofFile files settings root steps with
    | .error e => return .error e
    | .ok report? => (Except.map (report?.toList ++ ·)) <$> ofFiles files settings root rest

/-- Whether a report comes no later than another in the order of paths. -/
def comesBefore (r s : FileReport) : Bool := r.path.le s.path

/-- The reports on all files below a directory, in the order of paths, or the error that stopped the
walk. -/
def gather (files : Files) (settings : Settings) (root : Path) :
    Logged (Except Error (List FileReport)) := do
  match ← ofFiles files settings root (files.below root) with
  | .error e => return .error e
  | .ok reports =>
    let sorted := reports.mergeSort comesBefore
    Logged.report (.summarized sorted.length root)
    return .ok sorted

/-! ## What a walk gives -/

/-- The report on a document of some bytes whose record file has some bytes. -/
def ofBytes (steps : List Name) (bytes coverage : List UInt8) : FileReport :=
  let length := Document.lengthOf (Utf8.decodeLossy bytes)
  ⟨Path.ofNames steps, length,
    Summary.ofSet (CoverageSet.ofText (Utf8.decodeLossy coverage) length).value⟩

/-- The report that a chosen file with readable contents and records has, and no other file. -/
def report? (files : Files) (settings : Settings) (root : Path) (steps : List Name) :
    Option FileReport :=
  let path := root.descend steps
  if isChosen files settings path (Path.ofNames steps) then do
    let bytes ← (files.read path).toOption
    let coverage ← (files.read (Document.coveragePathOf path settings.suffix)).toOption
    return ofBytes steps bytes coverage
  else none

variable (files : Files) (settings : Settings) (root : Path)

theorem ofFile_value (steps : List Name) :
    (ofFile files settings root steps).value = .ok (report? files settings root steps) := by
  cases hchosen : isChosen files settings (root.descend steps) (Path.ofNames steps) with
  | false => simp [ofFile, report?, hchosen]
  | true =>
    simp only [ofFile, report?, hchosen, if_true, Logged.bind_value]
    have hfinding := Document.finding_load files (root.descend steps) settings.suffix
    generalize (Document.load files (root.descend steps) settings.suffix).value = loaded at hfinding
    cases hfinding with
    | absent hdocument =>
      obtain ⟨fault, hread⟩ := Files.not_readable_iff.1 hdocument
      simp [hread, Except.toOption]
    | uncovered hdocument hcoverage =>
      obtain ⟨fault, hread⟩ := Files.not_readable_iff.1 hcoverage
      simp [hread, Except.toOption]
    | covered hdocument hcoverage =>
      simp [hdocument, hcoverage, Except.toOption, ofBytes, Document.length]

theorem ofFiles_value (all : List (List Name)) :
    (ofFiles files settings root all).value = .ok (all.filterMap (report? files settings root)) := by
  induction all with
  | nil => rfl
  | cons steps rest ih =>
    simp only [ofFiles, Logged.bind_value, ofFile_value, Logged.map_value, ih, Except.map,
      List.filterMap_cons]
    cases report? files settings root steps <;> rfl

/-- No error stops a walk: what cannot be read is left out, and reading has no other error. -/
theorem gather_value :
    (gather files settings root).value =
      .ok (((files.below root).filterMap (report? files settings root)).mergeSort comesBefore) := by
  simp only [gather, Logged.bind_value, ofFiles_value]
  rfl

/-- The reports on all files below a directory, in the order of paths. -/
def summarize : Logged (List FileReport) :=
  let run := gather files settings root
  ⟨run.value.toOption.get (by simp [run, gather_value, Except.toOption]), run.events⟩

/-- What a summary gives is what the walk gives. -/
theorem gather_value_eq_summarize :
    (gather files settings root).value = .ok (summarize files settings root).value := by
  simp [summarize, gather_value, Except.toOption]

end FileReport

end CoverageOverlay
