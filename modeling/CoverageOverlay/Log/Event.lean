-- SUMMARY: What the library reports about its own work, with level, source and wording.
import CoverageOverlay.Annotation.Basic
import CoverageOverlay.Files.Fault
import CoverageOverlay.Files.Path
import CoverageOverlay.Text.Quoted

/-!
# Log events

Nothing is dropped in silence: a line without a record, a record that does not
fit, a file that cannot be read each leave an event. An event is the cause
itself; level, source and wording are functions of it.
-/

namespace CoverageOverlay.Log

/-- How much an event matters. The order is from the gravest on. -/
inductive Level
  | error
  | warn
  | info
  | debug
  | trace
deriving DecidableEq, Repr, Inhabited

namespace Level

/-- The rank of a level; a filter of some rank lets the smaller ranks pass. -/
def rank : Level → Nat
  | error => 1
  | warn => 2
  | info => 3
  | debug => 4
  | trace => 5

/-- The name of a level in messages. -/
def name : Level → String
  | error => "ERROR"
  | warn => "WARN"
  | info => "INFO"
  | debug => "DEBUG"
  | trace => "TRACE"

/-- Every level. -/
def all : List Level := [error, warn, info, debug, trace]

end Level

/-- The part of the library that an event comes from. -/
inductive Source
  | parser
  | resolver
  | discovery
  | config
  | overlay
  | report
  | watch
deriving DecidableEq, Repr, Inhabited

/-- The name of a source, by which filters choose. -/
def Source.target : Source → String
  | parser => "covlay::parser"
  | resolver => "covlay::resolver"
  | discovery => "covlay::discovery"
  | config => "covlay::config"
  | overlay => "covlay::overlay"
  | report => "covlay::report"
  | watch => "covlay::watch"

/-- Something worth reporting. -/
inductive Event
  /-- A candidate was passed over because a number is too wide. -/
  | offsetsTooWide (line : Text)
  /-- A line that is not blank holds no record. -/
  | noRecord (line : Text)
  /-- A record yields no annotation. -/
  | dropped (record : Record) (why : Rejection) (documentLength : UInt64)
  /-- A whole record file was resolved. -/
  | resolved (kept dropped : Nat)
  /-- The record file of a document cannot be read. -/
  | coverageUnreadable (coverage : Path) (fault : Fault)
  /-- Settings were read from a file. -/
  | settingsLoaded (file : Path) (suffix : Text)
  /-- A document was left as it is because it has no record file. -/
  | applySkipped (coverage : Path)
  /-- A document was drawn. -/
  | applied (count : Nat) (coverage : Path)
  /-- A document is left out of a report because its record file cannot be read. -/
  | coverageSkipped (document coverage : Path)
  /-- A document is left out of a report because it cannot be read. -/
  | documentSkipped (document : Path)
  /-- A report is complete. -/
  | summarized (count : Nat) (root : Path)
  /-- A directory is being watched. -/
  | watching (directory : Path)
  /-- A watched file changed. -/
  | changeDetected (document : Path)
deriving DecidableEq, Repr

namespace Event

/-- How much an event matters. -/
def level : Event → Level
  | coverageSkipped .. | documentSkipped _ => .warn
  | watching _ | changeDetected _ => .info
  | _ => .debug

/-- Where an event comes from. -/
def source : Event → Source
  | offsetsTooWide _ | noRecord _ => .parser
  | dropped .. | resolved .. => .resolver
  | coverageUnreadable .. => .discovery
  | settingsLoaded .. => .config
  | applySkipped _ | applied .. => .overlay
  | coverageSkipped .. | documentSkipped _ | summarized .. => .report
  | watching _ | changeDetected _ => .watch

/-- The words for an event. -/
def message : Event → String
  | offsetsTooWide line => "skipping record with out-of-range offsets: " ++ Text.quoted line
  | noRecord line => "skipping line without a coverage record: " ++ Text.quoted line
  | dropped r why n =>
    s!"dropping {String.ofList r.kind}:{r.start},{r.length} ({why.name}, document length {n})"
  | resolved kept lost => s!"resolved {kept} annotations, dropped {lost}"
  | coverageUnreadable coverage fault => s!"cannot read {coverage.text}: {fault.message}"
  | settingsLoaded file suffix => s!"loaded {file.text} (suffix {Text.quoted suffix})"
  | applySkipped coverage => s!"apply skipped, {coverage.text} not found"
  | applied count coverage => s!"applied {count} annotations from {coverage.text}"
  | coverageSkipped document coverage =>
    s!"skipping {document.text}, cannot read {coverage.text}"
  | documentSkipped document => s!"skipping {document.text}, cannot read it"
  | summarized count root => s!"summarized {count} documents under {root.text}"
  | watching directory => s!"watching {directory.text}, press Ctrl+C to stop"
  | changeDetected document => s!"change detected, re-applying {document.text}"

/-- An event on one line, with level and source. -/
def line (e : Event) : String :=
  s!"{e.level.name} {e.source.target}: {e.message}"

end Event

end CoverageOverlay.Log
