-- SUMMARY: Which changes of entries a watch sees: those of the document and of a record file beside it.
import Mathlib
import CoverageOverlay.Proofs.Files.Directories
import CoverageOverlay.Watch.Event

/-!
# What a watch sees

The watched directory is the one in which the entry of the document stands,
however the path of the document is spelled. Of its entries those are noticed
which have the name of the document or of the record file. That is right as long
as the record file stands beside the document, and a suffix without a slash puts
it there. A suffix with a slash can put it into another directory: then its
changes are never seen, and an entry beside the document that happens to have
its name is taken for it.
-/

namespace CoverageOverlay.Watch

/-! ## Reports -/

namespace Change

variable {δ : Type} [DecidableEq δ] {c : Change δ} {directory : δ} {spelling : Path}
  {watched : List Path}

theorem signals_eq (c : Change δ) (directory : δ) (spelling : Path) (watched : List Path) :
    c.signals directory spelling watched =
      (c.kind.isChange && (c.entries.filter (·.1 = directory)).any fun e =>
        isWatched (spelling.child e.2) watched) := by
  rw [signals, report?]
  cases c.entries.filter (·.1 = directory) <;> simp [sends, Function.comp_def]

/-- A change signals if it is one of an entry of the watched directory that has the name of a watched
file. The path by which the directory was asked for plays no part. -/
theorem signals_iff (hallowed : ∀ e ∈ c.entries, e.2.Allowed) :
    c.signals directory spelling watched = true ↔
      c.kind.isChange = true ∧
        ∃ n, (directory, n) ∈ c.entries ∧ ∃ p ∈ watched, p.fileName? = some n := by
  have hwatched (n : Name) (hn : (directory, n) ∈ c.entries) :
      isWatched (spelling.child n) watched = true ↔ ∃ p ∈ watched, p.fileName? = some n := by
    simp [isWatched, spelling.fileName?_child (hallowed _ hn)]
  rw [signals_eq, Bool.and_eq_true, List.any_eq_true]
  refine and_congr_right fun _ => ⟨?_, ?_⟩
  · rintro ⟨⟨d, n⟩, hmem, hname⟩
    obtain ⟨hn, hd⟩ := List.mem_filter.1 hmem
    obtain rfl : d = directory := by simpa using hd
    exact ⟨n, hn, (hwatched n hn).1 hname⟩
  · rintro ⟨n, hn, hname⟩
    exact ⟨(directory, n), List.mem_filter.2 ⟨hn, by simp⟩, (hwatched n hn).2 hname⟩

end Change

/-! ## The directory of a document -/

variable {s : Directories} {document : Path} {directory : s.Directory} {n : Name} {suffix : Text}

/-- The directory that is watched is the one in which the entry of the document stands. -/
theorem directory?_directoryOf (h : s.entryOf? document = some (directory, n)) :
    s.directory? (directoryOf document) = some directory := by
  obtain ⟨above, hends, hfollow⟩ := Directories.exists_endsIn h
  obtain ⟨parent, hparent, habsolute, hsteps⟩ := hends.exists_parent
  have hparts : (directoryOf document).chars ≠ [] ∧
      (directoryOf document).isAbsolute = document.isAbsolute ∧
      Path.dropInert (directoryOf document).steps = Path.dropInert above := by
    rw [directoryOf, hparent]
    dsimp only
    split
    · next hempty =>
      have hnil : Path.isAbsolute parent = false ∧ parent.steps = [[]] := by
        simp [Path.isAbsolute, Path.steps, hempty]
      rw [hnil.1] at habsolute
      rw [hnil.2] at hsteps
      exact ⟨List.cons_ne_nil _ _, habsolute, hsteps⟩
    · next hne => exact ⟨hne, habsolute, hsteps⟩
  obtain ⟨hne, hstart, hway⟩ := hparts
  rw [Directories.directory?, if_neg hne, ← Directories.follow?_dropInert, hway,
    Directories.follow?_dropInert, Directories.start, hstart]
  exact hfollow

/-! ## What is seen -/

/-- A change is one of the entry of the document, or of the entry of its record file. -/
def Concerns (s : Directories) (document : Path) (suffix : Text) (c : Change s.Directory) : Prop :=
  ∃ e ∈ c.entries, s.entryOf? document = some e ∨
    s.entryOf? (Document.coveragePathOf document suffix) = some e

/-- The watch of a document sees the changes of the document and of its record file and no others,
whatever path the directory was asked for by. -/
def SeesExactly (s : Directories) (document : Path) (suffix : Text) : Prop :=
  ∃ directory, s.directory? (directoryOf document) = some directory ∧
    ∀ (c : Change s.Directory) (spelling : Path), (∀ e ∈ c.entries, e.2.Allowed) →
      (c.signals directory spelling (watchedPaths document suffix) = true ↔
        c.kind.isChange = true ∧ Concerns s document suffix c)

/-- The record file of a document is an entry beside the document. Or its path names no entry at all, and
the name at its end is no other than that of the document. -/
def RecordBeside (s : Directories) (document : Path) (suffix : Text) : Prop :=
  ∀ m : Name, m.Allowed → (Document.coveragePathOf document suffix).fileName? = some m →
    (∃ directory n, s.entryOf? document = some (directory, n) ∧
      s.entryOf? (Document.coveragePathOf document suffix) = some (directory, m)) ∨
    s.entryOf? (Document.coveragePathOf document suffix) = none ∧ document.fileName? = some m

/-- A suffix without a slash puts the record file beside the document. -/
theorem recordBeside_of_slash_not_mem (h : s.entryOf? document = some (directory, n))
    (hsuffix : '/' ∉ suffix) : RecordBeside s document suffix := by
  intro m _ hrecord
  have hentry : s.entryOf? (Document.coveragePathOf document suffix) = some (directory, n ++ suffix) :=
    Directories.entryOf?_append h hsuffix
  obtain rfl := Option.some.inj ((Directories.fileName?_of_entryOf? hentry).symm.trans hrecord)
  exact .inl ⟨directory, n, h, hentry⟩

theorem seesExactly_of_recordBeside (h : s.entryOf? document = some (directory, n))
    (hbeside : RecordBeside s document suffix) : SeesExactly s document suffix := by
  have hname : document.fileName? = some n := Directories.fileName?_of_entryOf? h
  refine ⟨directory, directory?_directoryOf h, fun c spelling hallowed => ?_⟩
  rw [Change.signals_iff hallowed]
  refine and_congr_right fun _ => ⟨?_, ?_⟩
  · rintro ⟨m, hm, p, hp, hpname⟩
    have hdocument : document.fileName? = some m → Concerns s document suffix c := by
      intro hdocument
      obtain rfl := Option.some.inj (hname.symm.trans hdocument)
      exact ⟨_, hm, .inl h⟩
    simp only [watchedPaths, List.mem_cons, List.not_mem_nil, or_false] at hp
    rcases hp with rfl | rfl
    · exact hdocument hpname
    · rcases hbeside m (hallowed _ hm) hpname with ⟨d, k, hentry, hrecord⟩ | ⟨-, hdocumentName⟩
      · obtain ⟨rfl, rfl⟩ := Prod.mk.inj (Option.some.inj (h.symm.trans hentry))
        exact ⟨_, hm, .inr hrecord⟩
      · exact hdocument hdocumentName
  · rintro ⟨⟨d, m⟩, hm, hentry | hentry⟩
    · obtain ⟨rfl, rfl⟩ := Prod.mk.inj (Option.some.inj (h.symm.trans hentry))
      exact ⟨_, hm, document, by simp [watchedPaths], hname⟩
    · have hrecord := Directories.fileName?_of_entryOf? hentry
      rcases hbeside m (hallowed _ hm) hrecord with ⟨d', k, hdocument, hhere⟩ | ⟨hnone, -⟩
      · obtain ⟨rfl, -⟩ := Prod.mk.inj (Option.some.inj (h.symm.trans hdocument))
        obtain ⟨rfl, -⟩ := Prod.mk.inj (Option.some.inj (hhere.symm.trans hentry))
        exact ⟨m, hm, _, by simp [watchedPaths], hrecord⟩
      · cases hnone.symm.trans hentry

theorem recordBeside_of_seesExactly (h : s.entryOf? document = some (directory, n))
    (hsees : SeesExactly s document suffix) : RecordBeside s document suffix := by
  obtain ⟨watched, hwatched, hsees⟩ := hsees
  obtain rfl := Option.some.inj ((directory?_directoryOf h).symm.trans hwatched)
  intro m hm hrecord
  -- An entry of the watched directory with the name of the record file signals, so it is one of the two.
  have hnamesake : Concerns s document suffix ⟨.modify, [(directory, m)]⟩ := by
    refine ((hsees ⟨.modify, [(directory, m)]⟩ document (by simpa using hm)).1 ?_).2
    rw [Change.signals_iff (by simpa using hm)]
    exact ⟨rfl, m, List.mem_singleton_self _, _, by simp [watchedPaths], hrecord⟩
  obtain ⟨e, he, hentry⟩ := hnamesake
  obtain rfl := List.mem_singleton.1 he
  rcases hentry with hdocument | hrecordEntry
  · cases hentry : s.entryOf? (Document.coveragePathOf document suffix) with
    | none => exact .inr ⟨rfl, Directories.fileName?_of_entryOf? hdocument⟩
    | some e =>
      -- The record file is an entry somewhere, and a change of it signals, so it is an entry here.
      obtain ⟨d, k⟩ := e
      obtain rfl := Option.some.inj ((Directories.fileName?_of_entryOf? hentry).symm.trans hrecord)
      have hsignals := (hsees ⟨.modify, [(d, k)]⟩ document (by simpa using hm)).2
        ⟨rfl, (d, k), List.mem_singleton_self _, .inr hentry⟩
      rw [Change.signals_iff (by simpa using hm)] at hsignals
      obtain ⟨-, m, hmem, -⟩ := hsignals
      obtain ⟨rfl, rfl⟩ := Prod.mk.inj (List.mem_singleton.1 hmem)
      exact .inl ⟨_, n, h, rfl⟩
  · exact .inl ⟨directory, n, h, hrecordEntry⟩

/-- The watch of a document that can be read sees the changes of its two files, and no others, exactly
where the record file stands beside the document. With a suffix without a slash it does so always. -/
theorem seesExactly_iff {s : FileSystem} (hreadable : s.files.Readable document) (suffix : Text) :
    (SeesExactly s.toDirectories document suffix ↔ RecordBeside s.toDirectories document suffix) ∧
      ('/' ∉ suffix → SeesExactly s.toDirectories document suffix) := by
  obtain ⟨⟨directory, n⟩, h⟩ := s.named document hreadable
  refine ⟨⟨recordBeside_of_seesExactly h, seesExactly_of_recordBeside h⟩, fun hsuffix => ?_⟩
  exact seesExactly_of_recordBeside h (recordBeside_of_slash_not_mem h hsuffix)

/-! ## A record file in another directory -/

/-- A directory with a document, with a directory of records beside it, and with a file that has the name
of the record file. -/
def shelf : FileTree :=
  ⟨[(["f.lisp".toList], .file (Utf8.encode "(f)".toList)),
    (["f.lisp-cov".toList], .directory),
    (["f.lisp-cov".toList, ['r']], .file (Utf8.encode "A:T,0,1".toList)),
    ([['r']], .file [])], []⟩

theorem wellFormed_shelf : shelf.WellFormed := by decide

/-- Spelled with a detour, a document is watched in the directory in which it stands. -/
theorem seesExactly_iff_shelf :
    let s := shelf.fileSystem wellFormed_shelf
    let document := Path.ofString "f.lisp-cov/.././f.lisp"
    s.files.Readable document ∧ '/' ∉ ".cov".toList ∧
      SeesExactly s.toDirectories document ".cov".toList := by
  have hread : shelf.read (.ofString "f.lisp-cov/.././f.lisp") = .ok (Utf8.encode "(f)".toList) := by
    cbv
  have hreadable : (shelf.fileSystem wellFormed_shelf).files.Readable
      (.ofString "f.lisp-cov/.././f.lisp") := ⟨_, hread⟩
  have hsuffix : '/' ∉ ".cov".toList := by decide
  exact ⟨hreadable, hsuffix, (seesExactly_iff hreadable ".cov".toList).2 hsuffix⟩

/-- With a suffix that puts the record file into another directory, its change does not signal, and the
change of a file beside the document does which happens to have its name. -/
theorem not_seesExactly :
    let s := shelf.fileSystem wellFormed_shelf
    let document := Path.ofString "f.lisp"
    let suffix := "-cov/r".toList
    let recordChange : Change Place := ⟨.modify, [(["f.lisp-cov".toList], ['r'])]⟩
    let otherChange : Change Place := ⟨.modify, [([], ['r'])]⟩
    s.files.Readable document ∧ s.directory? (directoryOf document) = some [] ∧
      Concerns s.toDirectories document suffix recordChange ∧
      recordChange.signals [] ⟨['.']⟩ (watchedPaths document suffix) = false ∧
      ¬Concerns s.toDirectories document suffix otherChange ∧
      otherChange.signals [] ⟨['.']⟩ (watchedPaths document suffix) = true ∧
      ¬SeesExactly s.toDirectories document suffix := by
  intro s document suffix recordChange otherChange
  have hread : shelf.read (.ofString "f.lisp") = .ok (Utf8.encode "(f)".toList) := by cbv
  have hdirectory : shelf.directories.directory? (directoryOf (.ofString "f.lisp")) = some [] := by
    cbv
  have hdocument : shelf.directories.entryOf? (.ofString "f.lisp") = some ([], "f.lisp".toList) := by
    cbv
  have hrecord : shelf.directories.entryOf? (.ofString "f.lisp-cov/r") =
      some (["f.lisp-cov".toList], ['r']) := by cbv
  have hconcerns : Concerns s.toDirectories document suffix recordChange :=
    ⟨_, List.mem_singleton_self _, .inr hrecord⟩
  have hmissed : recordChange.signals [] ⟨['.']⟩ (watchedPaths document suffix) = false := by
    decide
  have hunconcerned : ¬Concerns s.toDirectories document suffix otherChange := by
    rintro ⟨e, he, hentry⟩
    rcases List.mem_singleton.1 he ▸ hentry with hentry | hentry
    · cases hdocument.symm.trans hentry
    · cases hrecord.symm.trans hentry
  have hmistaken : otherChange.signals [] ⟨['.']⟩ (watchedPaths document suffix) = true := by
    decide
  refine ⟨⟨_, hread⟩, hdirectory, hconcerns, hmissed, hunconcerned, hmistaken, ?_⟩
  rintro ⟨directory, hwatched, hsees⟩
  obtain rfl := Option.some.inj (hdirectory.symm.trans hwatched)
  have hsignals := (hsees recordChange ⟨['.']⟩ (by decide)).2 ⟨rfl, hconcerns⟩
  cases hmissed.symm.trans hsignals

end CoverageOverlay.Watch
