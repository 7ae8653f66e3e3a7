-- SUMMARY: The listings, the overlay and the summary of a directory say the same of every document.
import CoverageOverlay.Command
import CoverageOverlay.Proofs.Annotation.Listing
import CoverageOverlay.Proofs.Json.Pretty
import CoverageOverlay.Proofs.Overlay.Apply
import CoverageOverlay.Proofs.Report.Gathering

/-!
# One document, shown in several ways

A summary, the two listings and an overlay read a document and its records each
for itself. What they find is one set of annotations, whatever bytes the files
hold, so every count that one of them gives is the count that the others give:
of lines, of elements, of decorations, and of those of each state.

The walk of a directory spells a file from the directory on, and its report
gives the path without the directory. From the working directory both spellings
lead to the same file.
-/

namespace CoverageOverlay

/-! ## Counts of one set -/

/-- The line of a listing has the style token of a state. -/
def Text.hasStyle (s : State) (line : Text) : Bool :=
  (line.splitOn '\t')[1]? = some s.style.toList

namespace CoverageSet

theorem countP_hasStyle (set : CoverageSet) (s : State) :
    (Text.lines set.listing).countP (Text.hasStyle s) = set.countState s := by
  rw [lines_listing, List.countP_map, countState]
  refine List.countP_congr fun a _ => ?_
  simp [Text.hasStyle, a.splitOn_line, Annotation.fields, String.toList_inj, State.style_inj]

theorem countP_decorations (set : CoverageSet) (s : State) :
    (set.map Decoration.ofRange).countP (fun d => d.style = s.style) = set.countState s := by
  rw [List.countP_map, countState]
  refine List.countP_congr fun a _ => ?_
  simp [Decoration.ofRange, State.style_inj]

end CoverageSet

/-! ## Two spellings -/

/-- The files below the working directory have names, and what is read by the path that a walk of the
directory gives is read by the path of these names too. -/
structure Files.SpellsAlike (files : Files) : Prop where
  named : ∀ steps ∈ files.below Command.workingDirectory, steps ≠ [] ∧ ∀ n ∈ steps, n.Allowed
  read_eq : ∀ {p : Path} {bytes : List UInt8}, p.chars ≠ [] → p.isAbsolute = false →
    files.read (Command.workingDirectory.child p.chars) = .ok bytes → files.read p = .ok bytes

/-- Every walk of a tree gives such paths. -/
theorem Files.Shows.spellsAlike {files : Files} {t : FileTree} {place : Place}
    (h : files.Shows t Command.workingDirectory place) (ht : t.WellFormed) : files.SpellsAlike where
  named steps hsteps := by
    obtain ⟨hne, e, hentry, -⟩ := (h.mem_below steps).1 hsteps
    exact ⟨hne, ht.allowed_of_append hentry⟩
  read_eq := by
    intro p bytes hne hrelative hread
    rw [h.read] at hread ⊢
    rw [← hread]
    exact (ht.read_here hne hrelative (FileTree.takes_of_read hread)).symm

namespace FileReport

variable {files : Files} {settings : Settings} {document : Path} {d : Document}
  {bytes coverage : List UInt8} {r : FileReport}

/-- What was written determines the text. -/
theorem written_inj {t u : Text} : Output.written t = .written u ↔ t = u := by
  simp only [Output.written, Output.mk.injEq, true_and, and_true]
  exact ⟨Utf8.encode_injective, congrArg Utf8.encode⟩

/-- Every report of a summary is on a file below the directory, by the bytes of the file and of its record
file. -/
theorem exists_of_mem_summarize {root : Path} (hr : r ∈ (summarize files settings root).value) :
    ∃ steps ∈ files.below root, ∃ bytes coverage, files.read (root.descend steps) = .ok bytes ∧
      files.read (coveragePathBelow settings root steps) = .ok coverage ∧
      ofBytes steps bytes coverage = r := by
  have hvalue := (gather_value files settings root).symm.trans
    (gather_value_eq_summarize files settings root)
  rw [← Except.ok.inj hvalue, List.mem_mergeSort, List.mem_filterMap] at hr
  obtain ⟨steps, hsteps, hreport⟩ := hr
  exact ⟨steps, hsteps, (report?_eq_some_iff.1 hreport).2⟩

section

variable [Toml.Explains]

/-- Everything that shows a document shows as many annotations as a summary counts, all together and of
each state. -/
structure Agreed (files : Files) (settings : Settings) (document : Path) (summary : Summary) :
    Prop where
  /-- One text is printed as the text listing. -/
  listed : ∃ text,
    (∀ t, (Command.runList files document .text).value = .written t ↔ t = text) ∧
      (Text.lines text).length = summary.total ∧
      ∀ s, (Text.lines text).countP (Text.hasStyle s) = summary.count s
  /-- One array is printed as the structured listing. -/
  structured : ∃ items,
    (∀ json : Json, (Command.runList files document .json).value = .written (json.pretty ++ ['\n']) ↔
        json = .array items) ∧
      items.length = summary.total
  applied : ∀ before : DecorationLayer, ∃ after : DecorationLayer,
    ((⟨settings, before⟩ : Overlay DecorationLayer).apply files document).value =
        (.ok (.applied summary.total), ⟨settings, after⟩) ∧
      after.decorations.length = summary.total ∧
      ∀ s, after.decorations.countP (fun d => d.style = s.style) = summary.count s

theorem runList_covered
    (hsettings : (Settings.load files Command.workingDirectory).value = .ok settings)
    (hload : (Document.load files document settings.suffix).value = .ok d) (format : Format) :
    (Command.runList files document format).value =
      .written (Command.listing d.annotations format) := by
  simp only [Command.runList, Command.withSettings, Logged.bind_value, hsettings, hload]
  rfl

theorem agreed_of_load
    (hsettings : (Settings.load files Command.workingDirectory).value = .ok settings)
    (hload : (Document.load files document settings.suffix).value = .ok d) :
    Agreed files settings document (.ofSet d.annotations) where
  listed := by
    refine ⟨d.annotations.listing, fun t => ?_, ?_, fun s => ?_⟩
    · rw [runList_covered hsettings hload, written_inj]
      exact eq_comm
    · rw [CoverageSet.lines_listing, List.length_map, Summary.total_ofSet]
    · rw [CoverageSet.countP_hasStyle, Summary.count_ofSet]
  structured := by
    refine ⟨d.annotations.map Annotation.toJson, fun json => ?_, List.length_map _⟩
    rw [runList_covered hsettings hload, written_inj, Command.listing, List.append_left_inj]
    exact ⟨fun h => (Json.pretty_injective h).symm, fun h => congrArg Json.pretty h.symm⟩
  applied before := by
    refine ⟨⟨d.annotations.map .ofRange⟩, ?_, List.length_map _, fun s => ?_⟩
    · rw [Overlay.apply_covered ⟨settings, before⟩ hload]
      rfl
    · rw [CoverageSet.countP_decorations, Summary.count_ofSet]

/-- The summary in a report is the one of the document that loading its two files gives. -/
theorem agreed_of_read
    (hsettings : (Settings.load files Command.workingDirectory).value = .ok settings)
    (hdocument : files.read document = .ok bytes)
    (hcoverage : files.read (Document.coveragePathOf document settings.suffix) = .ok coverage)
    (steps : List Name) : Agreed files settings document (ofBytes steps bytes coverage).summary := by
  let d : Document := ⟨Utf8.decodeLossy bytes, Utf8.decodeLossy coverage,
    Document.coveragePathOf document settings.suffix⟩
  have hload : (Document.load files document settings.suffix).value = .ok d := by
    simp [Document.load, hdocument, hcoverage, d]
  have hsummary : (ofBytes steps bytes coverage).summary = .ofSet d.annotations := rfl
  rw [hsummary]
  exact agreed_of_load hsettings hload

/-- A document of which the summary of the working directory has a report is shown alike by everything:
the text listing, the structured listing and an overlay of decorations have as many annotations as the
report counts, all together and of each state. It makes no difference whether the path of the document is
spelled as in the report or as in the walk of the directory. -/
theorem agreed_of_mem_summarize (settings : Settings) (hfiles : files.SpellsAlike)
    (hsettings : (Settings.load files Command.workingDirectory).value = .ok settings)
    (hr : r ∈ (summarize files settings Command.workingDirectory).value) :
    Agreed files settings r.path r.summary ∧
      Agreed files settings (Command.workingDirectory.child r.path.chars) r.summary := by
  obtain ⟨steps, hsteps, bytes, coverage, hread, hcoverage, rfl⟩ := exists_of_mem_summarize hr
  obtain ⟨hne, hallowed⟩ := hfiles.named steps hsteps
  have hpath : (Path.ofNames steps).chars ≠ [] := Path.ofNames_ne_nil hne hallowed
  have hrelative : (Path.ofNames steps).isAbsolute = false := Path.isAbsolute_ofNames hallowed
  have hopen : Command.workingDirectory.Open := ⟨by decide, by decide⟩
  have hwalked : Command.workingDirectory.descend steps =
      Command.workingDirectory.child (Path.ofNames steps).chars :=
    hopen.descend_eq hne hallowed
  rw [coveragePathBelow, hwalked] at hcoverage
  rw [hwalked] at hread
  -- The suffix goes behind the path, so the record file has both spellings too.
  have hcoverage' : files.read (Document.coveragePathOf (Path.ofNames steps) settings.suffix) =
      .ok coverage :=
    hfiles.read_eq (p := (Path.ofNames steps).append settings.suffix) (by simp [Path.append, hpath])
      (by rw [Path.append, Path.isAbsolute_append hpath, hrelative]) hcoverage
  have hread' := hfiles.read_eq hpath hrelative hread
  exact ⟨agreed_of_read hsettings hread' hcoverage' steps, agreed_of_read hsettings hread hcoverage steps⟩

end

/-- The document in a directory of a tree, which has one annotation. -/
theorem agreed_of_mem_summarize_thicket :
    ∃ r ∈ (summarize thicket.files .standard Command.workingDirectory).value,
      r.path = .ofString "a/x" ∧ r.summary.total = 1 ∧ r.summary.count .executed = 1 ∧
        Agreed thicket.files .standard r.path r.summary := by
  have htree : thicket.WellFormed := by decide
  have hroot : thicket.RealDirectory Command.workingDirectory ["w".toList] := ⟨by cbv, by decide⟩
  have hsettings : (Settings.load thicket.files Command.workingDirectory).value = .ok .standard := by
    cbv
  have hreports : (gather thicket.files .standard Command.workingDirectory).value =
      .ok [⟨.ofString "a/x", 3, ⟨[(.executed, 1)], 1⟩⟩, ⟨.ofString "a.b", 0, ⟨[], 0⟩⟩] := by
    cbv
  rw [gather_value_eq_summarize] at hreports
  have hmem : ⟨.ofString "a/x", 3, ⟨[(.executed, 1)], 1⟩⟩ ∈
      (summarize thicket.files .standard Command.workingDirectory).value := by
    rw [Except.ok.inj hreports]
    exact List.mem_cons_self
  have hagreed := agreed_of_mem_summarize .standard
    ((FileTree.shows_files htree hroot).spellsAlike htree) hsettings hmem
  exact ⟨_, hmem, rfl, rfl, rfl, hagreed.1⟩

end FileReport

end CoverageOverlay
