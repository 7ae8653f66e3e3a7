-- SUMMARY: The summary of a directory has exactly the reports it should have, in order, whatever order the files are walked in.
import Mathlib
import CoverageOverlay.Proofs.Files.Below
import CoverageOverlay.Report

/-!
# Gathering reports

A walk tries every regular file below a directory. Whether a file has a report,
and what the report says, is settled by the file and its record file alone, so
the reports are the same in every order of the walk, and sorting them by path
makes the lists equal too. No error comes out of a walk: the only errors of
reading are those for which a file is left out. One of them is that the file
itself cannot be read, although its record file can.
-/

namespace CoverageOverlay

namespace FileReport

variable {t : FileTree} {settings : Settings} {root : Path} {place : Place} {steps : List Name}
  {files : Files} {r : FileReport} {bytes coverage : List UInt8}

/-- Where the record file is of the document that steps below `root` lead to. -/
def coveragePathBelow (settings : Settings) (root : Path) (steps : List Name) : Path :=
  Document.coveragePathOf (root.descend steps) settings.suffix

/-- The steps lead to a regular file that is no record file itself, is chosen by the settings, and has a
record file that can be read. -/
structure Covered (t : FileTree) (settings : Settings) (root : Path) (place : Place)
    (steps : List Name) : Prop where
  below : t.FileBelow place steps
  noRecordFile : ¬settings.suffix <:+ (root.descend steps).chars
  scanned : settings.shouldScan (Path.ofNames steps).chars = true
  coverage : t.files.Readable (coveragePathBelow settings root steps)

/-- The steps lead to a file that is to have a report: one that has records and can itself be read. -/
structure Due (t : FileTree) (settings : Settings) (root : Path) (place : Place)
    (steps : List Name) : Prop extends Covered t settings root place steps where
  document : t.files.Readable (root.descend steps)

/-- A report says of a document with some bytes, whose record file has some bytes, what it should. -/
structure Describes (r : FileReport) (steps : List Name) (bytes coverage : List UInt8) : Prop where
  path : r.path = Path.ofNames steps
  documentLength :
    r.documentLength.toNat = min (Utf8.decodeLossy bytes).length (UInt64.size - 1)
  summary :
    r.summary =
      Summary.ofSet (CoverageSet.ofText (Utf8.decodeLossy coverage) r.documentLength).value

/-- A report is the one on the file that steps lead to, by the bytes of this file and of its record
file. -/
def ReportsOn (t : FileTree) (settings : Settings) (root : Path) (place : Place)
    (steps : List Name) (r : FileReport) : Prop :=
  ∃ bytes coverage, t.entry? (place ++ steps) = some (.file bytes) ∧
    t.read (coveragePathBelow settings root steps) = .ok coverage ∧ r.Describes steps bytes coverage

/-- Reports are exactly those of a directory: `chosen` are the files with a report, in the order of
paths component by component, and the reports are one on each of them. -/
structure Exact (t : FileTree) (settings : Settings) (root : Path) (place : Place)
    (chosen : List (List Name)) (reports : List FileReport) : Prop where
  increasing : chosen.Pairwise (· < ·)
  complete : ∀ steps, steps ∈ chosen ↔ Due t settings root place steps
  accurate : List.Forall₂ (ReportsOn t settings root place) chosen reports

/-! ## One file -/

theorem describes_ofBytes (steps : List Name) (bytes coverage : List UInt8) :
    (ofBytes steps bytes coverage).Describes steps bytes coverage where
  path := rfl
  documentLength := by
    have hlt : min (Utf8.decodeLossy bytes).length (UInt64.size - 1) < UInt64.size := by
      unfold UInt64.size; omega
    exact UInt64.toNat_ofNat_of_lt' hlt
  summary := rfl

theorem Describes.eq_ofBytes (h : r.Describes steps bytes coverage) :
    r = ofBytes steps bytes coverage := by
  have hlength : r.documentLength = (ofBytes steps bytes coverage).documentLength := by
    rw [← UInt64.toNat_inj, h.documentLength, (describes_ofBytes ..).documentLength]
  have hsummary := h.summary
  rw [hlength] at hsummary
  obtain ⟨path, documentLength, summary⟩ := r
  exact FileReport.mk.injEq .. ▸ ⟨h.path, hlength, hsummary⟩

theorem ReportsOn.unique {s : FileReport} (hr : ReportsOn t settings root place steps r)
    (hs : ReportsOn t settings root place steps s) : r = s := by
  obtain ⟨bytes, coverage, hfile, hcoverage, hdescribes⟩ := hr
  obtain ⟨bytes', coverage', hfile', hcoverage', hdescribes'⟩ := hs
  have hbytes : bytes = bytes' := by simpa [hfile] using hfile'
  have hrecords : coverage = coverage' := by simpa [hcoverage] using hcoverage'
  rw [hdescribes.eq_ofBytes, hdescribes'.eq_ofBytes, hbytes, hrecords]

theorem isChosen_iff {path relative : Path} :
    isChosen files settings path relative = true ↔
      ¬settings.suffix <:+ path.chars ∧
        files.present (Document.coveragePathOf path settings.suffix) = true ∧
          settings.shouldScan relative.chars = true := by
  simp [isChosen, ← Bool.not_eq_true, and_assoc]

theorem report?_eq_some_iff :
    report? files settings root steps = some r ↔
      isChosen files settings (root.descend steps) (Path.ofNames steps) = true ∧
        ∃ bytes coverage, files.read (root.descend steps) = .ok bytes ∧
          files.read (coveragePathBelow settings root steps) = .ok coverage ∧
            ofBytes steps bytes coverage = r := by
  simp only [report?, coveragePathBelow]
  cases isChosen files settings (root.descend steps) (Path.ofNames steps) <;>
    cases files.read (root.descend steps) <;>
      cases files.read (Document.coveragePathOf (root.descend steps) settings.suffix) <;>
        simp [Except.toOption]

/-- A walk of a tree finds a report on a file exactly if there is one, and finds that one. -/
theorem report?_eq_some_iff_of_shows (ht : t.WellFormed) (hroot : t.RealDirectory root place)
    (hfiles : files.Shows t root place) (hbelow : t.FileBelow place steps) :
    report? files settings root steps = some r ↔
      Due t settings root place steps ∧ ReportsOn t settings root place steps r := by
  rw [report?_eq_some_iff, isChosen_iff, hfiles.read, hfiles.present]
  obtain ⟨hne, e, hentry, hregular⟩ := hbelow
  constructor
  · rintro ⟨⟨hsuffix, -, hscan⟩, bytes, coverage, hread, hcoverage, rfl⟩
    have htakes := FileTree.takes_of_read hcoverage
    obtain rfl := (hroot.read_descend_iff ht hne hentry hregular htakes).1 hread
    refine ⟨⟨⟨⟨hne, _, hentry, hregular⟩, hsuffix, hscan, coverage, hcoverage⟩, bytes, hread⟩, ?_⟩
    exact ⟨bytes, coverage, hentry, hcoverage, describes_ofBytes steps bytes coverage⟩
  · rintro ⟨hdue, bytes, coverage, hfile, hcoverage, hdescribes⟩
    have htakes := FileTree.takes_of_read hcoverage
    obtain rfl : e = .file bytes := Option.some.inj (hentry.symm.trans hfile)
    refine ⟨⟨hdue.noRecordFile, FileTree.present_of_read hcoverage, hdue.scanned⟩, bytes, coverage,
      ?_, hcoverage, hdescribes.eq_ofBytes.symm⟩
    exact (hroot.read_descend_iff ht hne hentry hregular htakes).2 rfl

/-- A file that is to have a report has one. -/
theorem Due.exists_reportsOn (ht : t.WellFormed) (hroot : t.RealDirectory root place)
    (h : Due t settings root place steps) : ∃ r, ReportsOn t settings root place steps r := by
  obtain ⟨hne, e, hentry, hregular⟩ := h.below
  obtain ⟨coverage, hcoverage⟩ := h.coverage
  obtain ⟨bytes, hbytes⟩ := h.document
  obtain rfl :=
    (hroot.read_descend_iff ht hne hentry hregular (FileTree.takes_of_read hcoverage)).1 hbytes
  exact ⟨_, bytes, coverage, hentry, hcoverage, describes_ofBytes steps bytes coverage⟩

theorem isSome_report?_iff (ht : t.WellFormed) (hroot : t.RealDirectory root place)
    (hfiles : files.Shows t root place) (hbelow : t.FileBelow place steps) :
    (report? files settings root steps).isSome = true ↔ Due t settings root place steps := by
  simp only [Option.isSome_iff_exists, report?_eq_some_iff_of_shows ht hroot hfiles hbelow]
  exact ⟨fun ⟨_, hdue, _⟩ => hdue, fun hdue =>
    (hdue.exists_reportsOn ht hroot).imp fun _ hr => ⟨hdue, hr⟩⟩

/-! ## All files -/

/-- Whether some steps come no later than others in the order of paths. -/
def stepsBefore (steps others : List Name) : Bool := !decide (others < steps)

theorem stepsBefore_iff {others : List Name} :
    stepsBefore steps others = true ↔ steps < others ∨ steps = others := by
  simp [stepsBefore, ← le_iff_lt_or_eq]

theorem comesBefore_eq {s : FileReport} {others : List Name} (hsteps : ∀ n ∈ steps, n.Allowed)
    (hothers : ∀ n ∈ others, n.Allowed) (hr : r.path = Path.ofNames steps)
    (hs : s.path = Path.ofNames others) : stepsBefore steps others = comesBefore r s := by
  rw [Bool.eq_iff_iff, stepsBefore_iff, comesBefore, hr, hs, Path.le_ofNames_iff hsteps hothers]

/-- Sorted steps without a repetition increase. -/
theorem increasing_mergeSort {all : List (List Name)} (hall : all.Nodup) :
    (all.mergeSort stepsBefore).Pairwise (· < ·) := by
  have hsorted : (all.mergeSort stepsBefore).Pairwise fun a b => stepsBefore a b = true :=
    List.pairwise_mergeSort
      (fun a b c hab hbc => by
        simp only [stepsBefore_iff, ← le_iff_lt_or_eq] at hab hbc ⊢
        exact hab.trans hbc)
      (fun a b => by
        simp only [Bool.or_eq_true, stepsBefore_iff, ← le_iff_lt_or_eq]
        exact le_total a b) all
  have hdistinct : (all.mergeSort stepsBefore).Pairwise (· ≠ ·) :=
    (List.mergeSort_perm all stepsBefore).nodup_iff.2 hall
  exact (hsorted.and hdistinct).imp fun ⟨hle, hne⟩ => (stepsBefore_iff.1 hle).resolve_right hne

/-- What is kept of a list is the image of the part of it that has an image. -/
theorem filterMap_eq_map_filter {α β : Type} (f : α → Option β) (d : β) (l : List α) :
    l.filterMap f = (l.filter fun a => (f a).isSome).map fun a => (f a).getD d := by
  induction l with
  | nil => rfl
  | cons a rest ih => cases h : f a <;> simp [h, ih]

/-- In every order of the walk the reports are exactly those of the directory. -/
theorem gather_of_shows (settings : Settings) (ht : t.WellFormed)
    (hroot : t.RealDirectory root place) (hfiles : files.Shows t root place) :
    ∃ chosen reports, Exact t settings root place chosen reports ∧
      (gather files settings root).value = .ok reports := by
  let found := report? files settings root
  let due := (files.below root).filter fun steps => (found steps).isSome
  let report : List Name → FileReport := fun steps => (found steps).getD default
  have hdue : ∀ steps, steps ∈ due ↔ Due t settings root place steps := by
    intro steps
    rw [List.mem_filter, hfiles.mem_below]
    constructor
    · exact fun ⟨hbelow, hsome⟩ => (isSome_report?_iff ht hroot hfiles hbelow).1 hsome
    · exact fun h => ⟨h.below, (isSome_report?_iff ht hroot hfiles h.below).2 h⟩
  have hreport : ∀ steps ∈ due, ReportsOn t settings root place steps (report steps) := by
    intro steps hsteps
    have hbelow : t.FileBelow place steps := ((hdue steps).1 hsteps).below
    obtain ⟨r, hr⟩ := Option.isSome_iff_exists.1 (List.mem_filter.1 hsteps).2
    rw [show report steps = r by simp [report, hr]]
    exact ((report?_eq_some_iff_of_shows ht hroot hfiles hbelow).1 hr).2
  -- Sorting the reports is sorting the steps, so what is proved of sorted steps holds of the reports.
  have hsort : (due.mergeSort stepsBefore).map report =
      ((files.below root).filterMap found).mergeSort comesBefore := by
    rw [filterMap_eq_map_filter found default]
    refine List.map_mergeSort fun steps hsteps others hothers => ?_
    obtain ⟨_, _, hfile, -, hr⟩ := hreport steps hsteps
    obtain ⟨_, _, hfile', -, hs⟩ := hreport others hothers
    exact comesBefore_eq (ht.allowed_of_append hfile) (ht.allowed_of_append hfile') hr.path hs.path
  refine ⟨due.mergeSort stepsBefore, (due.mergeSort stepsBefore).map report, ⟨?_, ?_, ?_⟩, ?_⟩
  · exact increasing_mergeSort (hfiles.nodup.filter _)
  · exact fun steps => List.mem_mergeSort.trans (hdue steps)
  · rw [List.forall₂_map_right_iff, List.forall₂_same]
    exact fun steps hsteps => hreport steps (List.mem_mergeSort.1 hsteps)
  · rw [gather_value, hsort]

/-- A directory has one list of reports only. -/
theorem Exact.unique {chosen chosen' : List (List Name)} {reports reports' : List FileReport}
    (h : Exact t settings root place chosen reports)
    (h' : Exact t settings root place chosen' reports') : chosen = chosen' ∧ reports = reports' := by
  have hchosen : chosen = chosen' :=
    h.increasing.eq_of_mem_iff h'.increasing fun steps => (h.complete steps).trans (h'.complete steps).symm
  subst hchosen
  have hreports : Relator.RightUnique (ReportsOn t settings root place) :=
    fun _ _ _ hr hs => hr.unique hs
  exact ⟨rfl, hreports.forall₂ h.accurate h'.accurate⟩

/-- All walks of a directory give the same. -/
theorem gather_eq_of_shows {files' : Files} (settings : Settings) (ht : t.WellFormed)
    (hroot : t.RealDirectory root place) (hfiles : files.Shows t root place)
    (hfiles' : files'.Shows t root place) :
    (gather files settings root).value = (gather files' settings root).value := by
  obtain ⟨chosen, reports, hexact, hvalue⟩ := gather_of_shows settings ht hroot hfiles
  obtain ⟨chosen', reports', hexact', hvalue'⟩ := gather_of_shows settings ht hroot hfiles'
  rw [hvalue, hvalue', (hexact.unique hexact').2]

/-- The summary of a directory is complete and exact, and no order of the walk makes a difference: there
is one list of reports, the one that the directory is due, and every walk gives this list. -/
theorem gather_exact (settings : Settings) (ht : t.WellFormed)
    (hroot : t.RealDirectory root place) :
    ∃ chosen reports, Exact t settings root place chosen reports ∧
      ∀ files : Files, files.Shows t root place →
        (gather files settings root).value = .ok reports := by
  have hshows := FileTree.shows_files ht hroot
  obtain ⟨chosen, reports, hexact, hvalue⟩ := gather_of_shows settings ht hroot hshows
  refine ⟨chosen, reports, hexact, fun files hfiles => ?_⟩
  rw [gather_eq_of_shows settings ht hroot hfiles hshows, hvalue]

/-- A tree with two covered documents, whose spellings are ordered otherwise than their components; the
record file of one of them is a link that starts at the top. The record file of a third document is a
directory, that of a fourth is a link to nothing, and a fifth document cannot be read. -/
def thicket : FileTree :=
  ⟨[(["w".toList], .directory),
    (["w".toList, "a".toList], .directory),
    (["w".toList, "a".toList, "x".toList], .file (Utf8.encode "(f)".toList)),
    (["w".toList, "a".toList, "x.cov".toList], .file (Utf8.encode "A:T,0,1".toList)),
    (["w".toList, "a.b".toList], .file []),
    (["w".toList, "a.b.cov".toList], .link ⟨"/w/a/x.cov".toList⟩),
    (["w".toList, "b".toList], .file []),
    (["w".toList, "b.cov".toList], .directory),
    (["w".toList, "c".toList], .file []),
    (["w".toList, "c.cov".toList], .link ⟨"gone".toList⟩),
    (["w".toList, "d".toList], .sealed (.other "Permission denied (os error 13)")),
    (["w".toList, "d.cov".toList], .file [])],
    ["w".toList]⟩

/-- The same tree with two more documents that have records. -/
def overgrown : FileTree :=
  { thicket with
    entries := thicket.entries ++
      [(["w".toList, "e".toList], .file []), (["w".toList, "e.cov".toList], .file []),
        (["w".toList, "f".toList], .file []), (["w".toList, "f.cov".toList], .file [])] }

/-- Settings under which one of the two is excluded, and the other is not included. -/
def choosy : Settings :=
  { Settings.standard with included := [['a'], ['b'], ['c'], ['d'], ['e']], excluded := [['e']] }

theorem gather_exact_overgrown :
    overgrown.WellFormed ∧ overgrown.RealDirectory (.ofString "/w") ["w".toList] ∧
      ∃ chosen reports, Exact overgrown choosy (.ofString "/w") ["w".toList] chosen reports ∧
        (∀ files : Files, files.Shows overgrown (.ofString "/w") ["w".toList] →
          (gather files choosy (.ofString "/w")).value = .ok reports) ∧
        reports.map (fun r => (r.path.chars, r.documentLength, r.summary.total)) =
          [("a/x".toList, 3, 1), ("a.b".toList, 0, 0)] := by
  have htree : overgrown.WellFormed := by decide
  have hroot : overgrown.RealDirectory (.ofString "/w") ["w".toList] := ⟨by cbv, by decide⟩
  obtain ⟨chosen, reports, hexact, hall⟩ := gather_exact choosy htree hroot
  refine ⟨htree, hroot, chosen, reports, hexact, hall, ?_⟩
  have hvalue := hall overgrown.files (FileTree.shows_files htree hroot)
  have hmap : (gather overgrown.files choosy (.ofString "/w")).value.map
      (List.map fun r => (r.path.chars, r.documentLength, r.summary.total)) =
        .ok [("a/x".toList, 3, 1), ("a.b".toList, 0, 0)] := by
    cbv
  rw [hvalue] at hmap
  exact Except.ok.inj hmap

/-! ## A file that cannot be read -/

/-- A directory of the system. -/
def pages : Place :=
  ["sys".toList, "kernel".toList, "mm".toList, "hugepages".toList, "hugepages-1048576kB".toList]

/-- The directory has a file that nobody can read, and another file whose name goes on from the name of the
first. -/
def switchboard : FileTree :=
  ⟨[(pages.take 1, .directory), (pages.take 2, .directory), (pages.take 3, .directory),
    (pages.take 4, .directory), (pages, .directory),
    (pages ++ ["demote".toList], .sealed (.other "Permission denied (os error 13)")),
    (pages ++ ["demote_size".toList], .file (Utf8.encode "2048kB\n".toList))], []⟩

/-- A record file that can be read is not enough for a report: there is none on a document that cannot be
read itself. -/
theorem covered_without_report :
    let settings : Settings := { Settings.standard with suffix := "_size".toList }
    let root := Path.ofString "/sys/kernel/mm/hugepages/hugepages-1048576kB"
    switchboard.WellFormed ∧ switchboard.RealDirectory root pages ∧
      Covered switchboard settings root pages ["demote".toList] ∧
      ∀ files : Files, files.Shows switchboard root pages →
        (gather files settings root).value = .ok [] := by
  intro settings root
  have htree : switchboard.WellFormed := by decide +kernel
  have hlocated : switchboard.locate false (.ofString "/sys/kernel/mm/hugepages/hugepages-1048576kB") =
      .ok (some pages) := by cbv
  have hroot : switchboard.RealDirectory root pages := ⟨hlocated, rfl⟩
  have hbelow : switchboard.FileBelow pages ["demote".toList] :=
    ⟨by decide, .sealed (.other "Permission denied (os error 13)"), rfl, rfl⟩
  have hcoverage : switchboard.read
      (.ofString "/sys/kernel/mm/hugepages/hugepages-1048576kB/demote_size") =
        .ok (Utf8.encode "2048kB\n".toList) := by cbv
  refine ⟨htree, hroot, ⟨hbelow, by decide, by decide, _, hcoverage⟩, fun files hfiles => ?_⟩
  rw [gather_eq_of_shows settings htree hroot hfiles (FileTree.shows_files htree hroot)]
  have hvalue : (gather switchboard.files { Settings.standard with suffix := "_size".toList }
      (.ofString "/sys/kernel/mm/hugepages/hugepages-1048576kB")).value = .ok [] := by cbv
  exact hvalue

end FileReport

end CoverageOverlay
