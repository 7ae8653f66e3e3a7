import CoverageOverlay.Main
import CoverageOverlay.Proofs.Record.Occurrence
import CoverageOverlay.Proofs.Record.Search
import CoverageOverlay.Proofs.Annotation.Resolution
import CoverageOverlay.Proofs.Drawing.Cells
import CoverageOverlay.Proofs.Surface.Screen
import CoverageOverlay.Proofs.Annotation.Shrinking
import CoverageOverlay.Proofs.Overlay.Apply
import CoverageOverlay.Proofs.Overlay.LastShown
import CoverageOverlay.Proofs.Drawing.Decoding
import CoverageOverlay.Proofs.Overlay.Frame
import CoverageOverlay.Proofs.Watch.Loop
import CoverageOverlay.Proofs.Watch.Schedule
import CoverageOverlay.Proofs.Watch.UpToDate
import CoverageOverlay.Proofs.Surface.Intent
import CoverageOverlay.Proofs.Text.Lines
import CoverageOverlay.Proofs.Text.Utf8
import CoverageOverlay.Proofs.Record.Boundary
import CoverageOverlay.Proofs.Record.Sequence
import CoverageOverlay.Proofs.Record.Bytes
import CoverageOverlay.Proofs.Record.Written
import CoverageOverlay.Proofs.Files.Names
import CoverageOverlay.Proofs.Files.Below
import CoverageOverlay.Proofs.Report.Gathering
import CoverageOverlay.Proofs.Annotation.Counts
import CoverageOverlay.Proofs.Annotation.Joining
import CoverageOverlay.Proofs.Annotation.Accounting
import CoverageOverlay.Proofs.Watch.Snapshots
import CoverageOverlay.Proofs.Text.Written
import CoverageOverlay.Proofs.Json.Pretty
import CoverageOverlay.Proofs.Annotation.Listing
import CoverageOverlay.Proofs.Report.FrontEnds
import CoverageOverlay.Proofs.Drawing.Reordering
import CoverageOverlay.Proofs.Watch.Signals
import CoverageOverlay.Proofs.Command.Agreement
import CoverageOverlay.Proofs.Files.Directories
import CoverageOverlay.Proofs.Watch.Entries
import CoverageOverlay.Proofs.Drawing.Runs
import CoverageOverlay.Proofs.Overlay.Painted
import CoverageOverlay.Proofs.Record.Pulling
import CoverageOverlay.Proofs.Annotation.Conservation
import CoverageOverlay.Proofs.Annotation.Readers
import CoverageOverlay.Proofs.Settings.Given
