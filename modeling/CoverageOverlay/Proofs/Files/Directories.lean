-- SUMMARY: Directories, the way that a path takes through them, and the entries that paths name.
import CoverageOverlay.Proofs.Files.Below
import CoverageOverlay.Proofs.Files.Steps

/-!
# Directories and entries

An entry is a directory together with a name in it. Many paths name one entry:
the way to its directory can start at the top or in the working directory, and
can go through links and back up again. What is assumed of a file system here is
no more than that a path is taken step by step, and that only a path which names
an entry can be the path of a file. A file tree is such a file system.
-/

namespace CoverageOverlay

/-- The directories of a file system, and where a step leads from each of them. -/
structure Directories where
  Directory : Type
  decEq : DecidableEq Directory
  top : Directory
  working : Directory
  up : Directory → Directory
  /-- The directory that an entry is, or that it is a link to. -/
  enter? : Directory → Name → Option Directory

namespace Directories

attribute [instance] Directories.decEq

variable (s : Directories)

/-- Where a step leads. An empty step and a dot lead nowhere else. -/
def step? (directory : s.Directory) (step : Text) : Option s.Directory :=
  match Component.ofStep? step with
  | some (.name n) => s.enter? directory n
  | some .up => some (s.up directory)
  | _ => some directory

/-- Where steps lead. -/
def follow? (directory : s.Directory) (steps : List Text) : Option s.Directory :=
  steps.foldlM s.step? directory

/-- Where a path starts. -/
def start (p : Path) : s.Directory := if p.isAbsolute then s.top else s.working

/-- The directory that a path leads to. -/
def directory? (p : Path) : Option s.Directory :=
  if p.chars = [] then none else s.follow? (s.start p) p.steps

/-- The entry that a path names: only a path that ends in a name names one. -/
def entryOf? (p : Path) : Option (s.Directory × Name) :=
  match p.steps.getLast?.bind Component.ofStep? with
  | some (.name n) => (s.follow? (s.start p) p.steps.dropLast).map fun directory => (directory, n)
  | _ => none

variable {s} {p : Path} {above : List Text} {n : Name} {directory : s.Directory} {suffix : Text}

theorem step?_of_none {step : Text} (h : Component.ofStep? step = none) (directory : s.Directory) :
    s.step? directory step = some directory := by
  simp only [step?, h]

theorem step?_of_up {step : Text} (h : Component.ofStep? step = some .up) (directory : s.Directory) :
    s.step? directory step = some (s.up directory) := by
  simp only [step?, h]

theorem follow?_cons {directory next : s.Directory} {step : Text} (h : s.step? directory step = some next)
    (rest : List Text) : s.follow? directory (step :: rest) = s.follow? next rest := by
  simp [follow?, h]

theorem follow?_dropInert (directory : s.Directory) (steps : List Text) :
    s.follow? directory (Path.dropInert steps) = s.follow? directory steps := by
  induction steps using List.reverseRecOn with
  | nil => rfl
  | append_singleton steps step ih =>
    cases hstep : Component.ofStep? step with
    | none =>
      rw [Path.dropInert_concat_of_none hstep, ih]
      simp [follow?, step?_of_none hstep]
    | some c => rw [Path.dropInert_concat_of_some hstep]

theorem entryOf?_eq (h : p.EndsIn above n) :
    s.entryOf? p = (s.follow? (s.start p) above).map fun directory => (directory, n) := by
  simp [entryOf?, h.steps, h.isName]

theorem exists_endsIn (h : s.entryOf? p = some (directory, n)) :
    ∃ above, p.EndsIn above n ∧ s.follow? (s.start p) above = some directory := by
  unfold entryOf? at h
  split at h
  · next m hlast =>
    obtain ⟨d, hfollow, heq⟩ := Option.map_eq_some_iff.1 h
    cases heq
    obtain ⟨step, hstep, hname⟩ := Option.bind_eq_some_iff.1 hlast
    obtain rfl := Path.eq_of_ofStep? hname
    obtain ⟨above, hsteps⟩ := List.getLast?_eq_some_iff.1 hstep
    refine ⟨above, ⟨hsteps, hname⟩, ?_⟩
    rwa [hsteps, List.dropLast_concat] at hfollow
  · cases h

theorem fileName?_of_entryOf? (h : s.entryOf? p = some (directory, n)) : p.fileName? = some n := by
  obtain ⟨above, hends, -⟩ := exists_endsIn h
  exact hends.fileName?

/-- The entry of a longer name stands in the same directory. -/
theorem entryOf?_append (h : s.entryOf? p = some (directory, n)) (hsuffix : '/' ∉ suffix) :
    s.entryOf? (p.append suffix) = some (directory, n ++ suffix) := by
  obtain ⟨above, hends, hfollow⟩ := exists_endsIn h
  have hstart : s.start (p.append suffix) = s.start p := by
    rw [start, Path.append, Path.isAbsolute_append hends.chars_ne_nil, start]
  rw [entryOf?_eq (hends.append hsuffix), hstart, hfollow]
  rfl

end Directories

/-- A file system: its directories and what can be read in it. -/
structure FileSystem extends Directories where
  files : Files
  /-- Whatever can be read is an entry of a directory. -/
  named : ∀ p, files.Readable p → ∃ entry, toDirectories.entryOf? p = some entry

namespace FileTree

/-- The place of an entry, if it is a directory or a link to one. -/
def enter? (t : FileTree) (place : Place) (n : Name) : Option Place :=
  match t.walk true linkLimit place [n] with
  | .ok (some inner) => if t.entry? inner = some .directory then some inner else none
  | _ => none

/-- The directories of a tree, by their places. -/
def directories (t : FileTree) : Directories where
  Directory := Place
  decEq := inferInstance
  top := []
  working := t.working
  up := List.dropLast
  enter? := t.enter?

variable {t : FileTree} {start next place : Place} {links : Nat} {step : Text} {bytes : List UInt8}

theorem directory_of_walk {rest : List Text}
    (h : t.walk true links start (step :: rest) = .ok (some place)) :
    t.entry? start = some .directory := by
  rw [walk] at h
  split at h
  · cases h
  · next hdirectory => exact not_not.1 hdirectory

/-- What is above a directory is a directory. -/
theorem WellFormed.directory_dropLast (ht : t.WellFormed) (h : t.entry? place = some .directory) :
    t.entry? place.dropLast = some .directory := by
  rcases List.eq_nil_or_concat place with rfl | ⟨outer, n, rfl⟩
  · exact h
  · rw [List.concat_eq_append] at h ⊢
    rw [List.dropLast_concat]
    exact (ht.directory_of_concat h).1

/-- A step that is no name is taken alike in a walk and through the directories. -/
theorem walk_of_not_name (ht : t.WellFormed) (hstart : t.entry? start = some .directory)
    (hname : ∀ n, Component.ofStep? step ≠ some (.name n)) :
    ∃ next, t.walk true links start [step] = .ok (some next) ∧
      t.directories.step? start step = some next ∧ t.entry? next = some .directory := by
  rcases Path.ofStep?_cases step with hstep | hstep | hstep
  · exact ⟨start, by simp [walk, hstep, hstart], Directories.step?_of_none hstep _, hstart⟩
  · exact ⟨start.dropLast, by simp [walk, hstep, hstart], Directories.step?_of_up hstep _,
      ht.directory_dropLast hstart⟩
  · exact absurd hstep (hname step)

/-- A step of a walk is a step through the directories. -/
theorem step?_of_walk (ht : t.WellFormed) (hle : links ≤ linkLimit)
    (hstart : t.entry? start = some .directory) (hnext : t.entry? next = some .directory)
    (h : t.walk true links start [step] = .ok (some next)) :
    t.directories.step? start step = some next := by
  by_cases hname : ∃ n, Component.ofStep? step = some (.name n)
  · obtain ⟨n, hname⟩ := hname
    obtain rfl := Path.eq_of_ofStep? hname
    simp [Directories.step?, hname, directories, enter?, walk_mono h hle, hnext]
  · obtain ⟨next', hwalk, hstep, -⟩ : ∃ next, t.walk true links start [step] = .ok (some next) ∧
        t.directories.step? start step = some next ∧ t.entry? next = some .directory :=
      walk_of_not_name ht hstart (not_exists.1 hname)
    obtain rfl := Option.some.inj (Except.ok.inj (h.symm.trans hwalk))
    exact hstep

/-- A walk that ends at what is no directory ends with a name, behind steps through the directories. -/
theorem exists_follow?_of_walk (ht : t.WellFormed) {steps : List Text} (hle : links ≤ linkLimit)
    (hstart : t.entry? start = some .directory)
    (h : t.walk true links start steps = .ok (some place))
    (hplace : t.entry? place ≠ some .directory) :
    ∃ above n last, steps = above ++ [n] ∧ Component.ofStep? n = some (.name n) ∧
      t.directories.follow? start above = some last := by
  induction steps generalizing links start with
  | nil =>
    rw [walk] at h
    cases h
    exact absurd hstart hplace
  | cons step rest ih =>
    obtain ⟨links', hfewer, next, hgoes⟩ | ⟨out, hout, hends⟩ := t.walk_append links start [step]
    · cases rest with
      | nil =>
        by_cases hname : ∃ n, Component.ofStep? step = some (.name n)
        · obtain ⟨n, hname⟩ := hname
          obtain rfl := Path.eq_of_ofStep? hname
          exact ⟨[], step, start, rfl, hname, rfl⟩
        · obtain ⟨next', hwalk, -, hnext⟩ := walk_of_not_name ht hstart (not_exists.1 hname)
          obtain rfl := Option.some.inj (Except.ok.inj (h.symm.trans hwalk))
          exact absurd hnext hplace
      | cons second rest =>
        have hstep : t.walk true links start [step] = .ok (some next) := by
          rw [← List.append_nil [step], hgoes, walk]
        have hrest : t.walk true links' next (second :: rest) = .ok (some place) := by
          rw [← hgoes]
          exact h
        have hnext : t.entry? next = some .directory := directory_of_walk hrest
        obtain ⟨above, n, last, hsteps, hname, hfollow⟩ := ih (Nat.le_trans hfewer hle) hnext hrest
        have hfirst := step?_of_walk ht hle hstart hnext hstep
        refine ⟨step :: above, n, last, by rw [hsteps, List.cons_append], hname, ?_⟩
        rw [Directories.follow?_cons hfirst]
        exact hfollow
    · exact absurd ((hends rest).symm.trans h) (hout place)

theorem exists_entryOf?_of_read (ht : t.WellFormed) {p : Path} (h : t.read p = .ok bytes) :
    ∃ entry, t.directories.entryOf? p = some entry := by
  obtain ⟨place, hlocate, hentry⟩ := read_eq_ok_iff.1 h
  rw [(takes_of_locate hlocate).locate] at hlocate
  have hstart : t.entry? (startIn t.working p) = some .directory := by
    unfold startIn
    split
    · rfl
    · exact ht.working
  obtain ⟨above, n, last, hsteps, hname, hfollow⟩ :=
    exists_follow?_of_walk ht (Nat.le_refl _) hstart hlocate (by simp [hentry])
  have hway : t.directories.follow? (t.directories.start p) above = some last := hfollow
  refine ⟨(last, n), ?_⟩
  rw [Directories.entryOf?_eq ⟨hsteps, hname⟩, hway]
  rfl

/-- A tree is a file system. -/
def fileSystem (t : FileTree) (ht : t.WellFormed) : FileSystem where
  toDirectories := t.directories
  files := t.files
  named _ := fun ⟨_, hread⟩ => exists_entryOf?_of_read ht hread

end FileTree

end CoverageOverlay
