-- SUMMARY: The commands: list, show, states, summary and the start of a watch.
import CoverageOverlay.Diagnostic
import CoverageOverlay.Report
import CoverageOverlay.Settings.Load
import CoverageOverlay.Surface.Terminal
import CoverageOverlay.Watch.Session

/-!
# Commands

A command reads through a view of the file system and gives what it writes. It
takes its settings from the working directory before anything else. A document
without records is no failure: the diagnostic says so, and nothing is written
to the standard output.
-/

namespace CoverageOverlay

/-- The form of a listing. -/
inductive Format
  | json
  | text
deriving DecidableEq, Repr, Inhabited

/-- What can be asked for. -/
inductive Command
  /-- The annotations of a document. -/
  | list (file : Path) (format : Format)
  /-- A document drawn with its annotations. -/
  | draw (file : Path) (plain : Bool)
  /-- The table of states. -/
  | states
  /-- The summaries of all documents below a directory. -/
  | summary (directory : Path) (format : Format)
  /-- A document drawn again after every change. -/
  | watch (file : Path) (plain : Bool)
deriving DecidableEq, Repr, Inhabited

/-- What a command gives. -/
structure Output where
  /-- Whether the command went well. -/
  result : Except Error Unit
  /-- The bytes on the standard output. -/
  stdout : List UInt8
  /-- The messages for people. -/
  stderr : Text

namespace Output

/-- A command that stopped without writing anything. -/
def failed (e : Error) : Output := ⟨.error e, [], []⟩

/-- A command that wrote a text. -/
def written (t : Text) : Output := ⟨.ok (), Utf8.encode t, []⟩

/-- A command that only gave a message. -/
def noted (message : Text) : Output := ⟨.ok (), [], message⟩

end Output

namespace Command

/-- The markup that a flag chooses. -/
def markupOf (plain : Bool) : Markup := if plain then .plain else .ansi

/-- The working directory. -/
def workingDirectory : Path := ⟨['.']⟩

variable [Toml.Explains]

/-- Go on with the settings of the working directory. -/
def withSettings (files : Files) (next : Settings → Logged Output) : Logged Output := do
  match ← Settings.load files workingDirectory with
  | .error e => return .failed e
  | .ok settings => next settings

/-! ## The commands -/

/-- A coverage set in a form. -/
def listing (set : CoverageSet) : Format → Text
  | .json => set.toJson.pretty ++ ['\n']
  | .text => set.listing

/-- The annotations of a document. -/
def runList (files : Files) (file : Path) (format : Format) : Logged Output :=
  withSettings files fun settings => do
    match ← Document.load files file settings.suffix with
    | .error (.coverageNotFound coverage document) =>
      return .noted (Error.coverageNotFound coverage document).shown
    | .error e => return .failed e
    | .ok d =>
      let set ← CoverageSet.ofText d.coverage d.length
      return .written (listing set format)

/-- A document drawn with its annotations. -/
def runDraw (files : Files) (file : Path) (plain : Bool) : Logged Output :=
  withSettings files fun settings => do
    let overlay : Overlay Terminal := ⟨settings, .new (markupOf plain) settings.composition⟩
    let (result, overlay) ← overlay.apply files file
    let stdout := overlay.renderer.surface.taken
    match result with
    | .error e => return ⟨.error e, stdout, []⟩
    | .ok (.missing coverage) =>
      return ⟨.ok (), stdout, (Error.coverageNotFound coverage file).shown⟩
    | .ok (.applied _) => return ⟨.ok (), stdout, []⟩

/-- A state in the table of states: its code right-aligned, its style token and its label. -/
def stateLine (s : State) : Text :=
  let code := Numeral.ofNat s.code
  List.replicate (2 - code.length) ' ' ++ code ++ '\t' :: s.style.toList
    ++ '\t' :: s.label.toList ++ ['\n']

/-- The table of states. -/
def runStates : Output := .written (State.legend.flatMap stateLine)

/-- The message that a directory holds nothing to summarize. -/
def nothingFound (settings : Settings) (directory : Path) : Text :=
  "No documents with ".toList ++ settings.suffix ++ " coverage records under ".toList
    ++ directory.chars ++ ['\n']

/-- Reports in a form. -/
def reportListing (settings : Settings) (directory : Path) (reports : List FileReport) :
    Format → Output
  | .json => .written ((FileReport.listingJson reports).pretty ++ ['\n'])
  | .text =>
    if reports = [] then .noted (nothingFound settings directory)
    else .written (FileReport.listing reports)

/-- The summaries of all documents below a directory. -/
def runSummary (files : Files) (directory : Path) (format : Format) : Logged Output :=
  withSettings files fun settings => do
    let reports ← FileReport.summarize files settings directory
    return reportListing settings directory reports format

/-- The first apply of a watch, and the overlay that goes on if the apply went well. -/
def beginWatch (files : Files) (file : Path) (plain : Bool) :
    Logged (Output × Option (Overlay Terminal)) := do
  match ← Settings.load files workingDirectory with
  | .error e => return (.failed e, none)
  | .ok settings =>
    let overlay : Overlay Terminal := ⟨settings, .new (markupOf plain) settings.composition⟩
    let (result, overlay) ← Watch.start overlay files file
    let stdout := overlay.renderer.surface.taken
    match result with
    | .error e => return (⟨.error e, stdout, []⟩, none)
    | .ok warnings => return (⟨.ok (), stdout, warnings⟩, some overlay)

/-- The first apply of a watch. -/
def runWatch (files : Files) (file : Path) (plain : Bool) : Logged Output :=
  (fun (output, _) => output) <$> beginWatch files file plain

/-- Run a command; of a watch, the part before the first change. -/
def run (files : Files) : Command → Logged Output
  | list file format => runList files file format
  | draw file plain => runDraw files file plain
  | states => pure runStates
  | summary directory format => runSummary files directory format
  | watch file plain => runWatch files file plain

end Command

end CoverageOverlay
