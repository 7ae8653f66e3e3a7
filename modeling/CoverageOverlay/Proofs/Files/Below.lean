-- SUMMARY: Well-formed file trees, what a path below a directory leads to, and what a walk of a directory sees.
import CoverageOverlay.Proofs.Files.Names
import Mathlib.Data.List.Induction

/-!
# Below a directory

In a well-formed tree every entry stands in a directory, so the names that lead
to an entry can be walked one after the other, without a link on the way. A path
that begins with the path of a directory therefore leads to the entry that the
names behind it lead to, whatever links the path of the directory itself goes
through.

A walk of a directory sees the regular files below it. In which order it sees
them is left open: a view shows a tree as long as it names each of these files
once.
-/

namespace CoverageOverlay

namespace FileTree

/-- A list of entries is a tree: names are names that a directory can hold, every entry stands in a
directory, no two entries have one place, and there is a working directory. -/
structure WellFormed (t : FileTree) : Prop where
  allowed : ∀ e ∈ t.entries, ∀ n ∈ e.1, n.Allowed
  inDirectory : ∀ e ∈ t.entries, t.entry? e.1.dropLast = some .directory
  distinct : (t.entries.map Prod.fst).Nodup
  working : t.entry? t.working = some .directory

instance (t : FileTree) : Decidable t.WellFormed :=
  decidable_of_iff
    ((∀ e ∈ t.entries, ∀ n ∈ e.1, n.Allowed) ∧
      (∀ e ∈ t.entries, t.entry? e.1.dropLast = some .directory) ∧
      (t.entries.map Prod.fst).Nodup ∧ t.entry? t.working = some .directory)
    ⟨fun ⟨hallowed, hdirectory, hdistinct, hworking⟩ =>
        ⟨hallowed, hdirectory, hdistinct, hworking⟩,
      fun ⟨hallowed, hdirectory, hdistinct, hworking⟩ =>
        ⟨hallowed, hdirectory, hdistinct, hworking⟩⟩

/-- A path leads to a directory and is itself no link to it. -/
structure RealDirectory (t : FileTree) (p : Path) (place : Place) : Prop where
  located : t.locate false p = .ok (some place)
  directory : t.entry? place = some .directory

/-- Steps lead from a place to a regular file below it, which need not be one that can be read. -/
def FileBelow (t : FileTree) (place : Place) (steps : List Name) : Prop :=
  steps ≠ [] ∧ ∃ e, t.entry? (place ++ steps) = some e ∧ e.isRegular = true

variable {t : FileTree} {place inner : Place} {e : Entry} {names : List Name}

/-! ## Entries -/

theorem entry_eq_lookup (t : FileTree) (hne : place ≠ []) :
    t.entry? place = t.entries.lookup place :=
  if_neg hne

theorem mem_entries_of_eq_some (hne : place ≠ []) (h : t.entry? place = some e) :
    (place, e) ∈ t.entries := by
  rw [entry_eq_lookup t hne] at h
  obtain ⟨before, after, hentries, -⟩ := List.lookup_eq_some_iff.1 h
  rw [hentries]
  exact List.mem_append_cons_self

namespace WellFormed

theorem entry?_of_mem (ht : t.WellFormed) (hne : place ≠ []) (h : (place, e) ∈ t.entries) :
    t.entry? place = some e := by
  rw [entry_eq_lookup t hne, List.lookup_eq_some_iff]
  obtain ⟨before, after, hentries⟩ := List.append_of_mem h
  refine ⟨before, after, hentries, fun other hother => ?_⟩
  have hdistinct := ht.distinct
  rw [hentries, List.map_append, List.map_cons, List.nodup_append] at hdistinct
  have hplace : other.1 ≠ place :=
    hdistinct.2.2 other.1 (List.mem_map_of_mem hother) place List.mem_cons_self
  simpa using hplace.symm

theorem directory_of_concat (ht : t.WellFormed) {n : Name}
    (h : t.entry? (place ++ [n]) = some e) : t.entry? place = some .directory ∧ n.Allowed := by
  have hmem := mem_entries_of_eq_some (by simp) h
  constructor
  · simpa using ht.inDirectory _ hmem
  · exact ht.allowed _ hmem n (by simp)

/-- Whatever has something below it is a directory. -/
theorem directory_of_append (ht : t.WellFormed) (hne : names ≠ [])
    (h : t.entry? (place ++ names) = some e) : t.entry? place = some .directory := by
  induction names using List.reverseRecOn generalizing e with
  | nil => exact absurd rfl hne
  | append_singleton rest n ih =>
    rw [← List.append_assoc] at h
    have hdirectory := (ht.directory_of_concat h).1
    by_cases hrest : rest = []
    · rwa [hrest, List.append_nil] at hdirectory
    · exact ih hrest hdirectory

theorem allowed_of_append (ht : t.WellFormed) (h : t.entry? (place ++ names) = some e) :
    ∀ n ∈ names, n.Allowed := by
  intro n hn
  by_cases hnil : place ++ names = []
  · simp_all
  · exact ht.allowed _ (mem_entries_of_eq_some hnil h) n (List.mem_append_right _ hn)

end WellFormed

/-! ## Walking -/

variable {root : Path} {bytes : List UInt8}

/-- Following a link at the end matters only where there is one. -/
theorem walk_follow {links : Nat} {start : Place} {steps : List Text}
    (hentry : ∀ target, t.entry? place ≠ some (.link target))
    (h : t.walk false links start steps = .ok (some place)) :
    t.walk true links start steps = .ok (some place) := by
  fun_induction walk t false links start steps with
  | case5 links above step rest hdirectory n hstep hshort target hlink hend =>
    simp only [Except.ok.injEq, Option.some.injEq] at h
    exact absurd (h ▸ hlink) (hentry target)
  | _ => simp_all [walk]

/-- A name that is short enough leads to the entry that has it, or on to the target of a link. -/
theorem walk_cons_name {links : Nat} {step : Text} {n : Name} {rest : List Text}
    (hdirectory : t.entry? place = some .directory) (hstep : Component.ofStep? step = some (.name n))
    (hshort : ¬Text.byteLength n > nameLimit) :
    t.walk true links place (step :: rest) =
      match t.entry? (place ++ [n]) with
      | none => .ok none
      | some (.link target) =>
        match links with
        | 0 => .error .tooManyLinks
        | links + 1 => t.walk true links (startIn place target) (target.steps ++ rest)
      | some _ => t.walk true links (place ++ [n]) rest := by
  rw [walk, if_neg (not_not.2 hdirectory)]
  cases hnext : t.entry? (place ++ [n]) with
  | none => simp only [hstep, hnext, if_neg hshort]
  | some next =>
    cases next with
    | link target =>
      cases links <;>
        simp only [hstep, hnext, if_neg hshort, Bool.true_eq_false, and_false, if_false]
    | _ => simp only [hstep, hnext, if_neg hshort]

/-- What some steps come to does not depend on the steps behind them, which go on from there, if the
first ones lead anywhere. -/
theorem walk_append (t : FileTree) (links : Nat) (start : Place) (steps : List Text) :
    (∃ links' ≤ links, ∃ start', ∀ rest,
      t.walk true links start (steps ++ rest) = t.walk true links' start' rest) ∨
      ∃ out, (∀ place, out ≠ .ok (some place)) ∧
        ∀ rest, t.walk true links start (steps ++ rest) = out := by
  fun_induction walk t true links start steps with
  | case1 links start => exact .inl ⟨links, Nat.le_refl _, start, fun _ => rfl⟩
  | case2 links start step steps hdirectory =>
    exact .inr ⟨.error .notDirectory, by simp, fun rest => by simp [walk, hdirectory]⟩
  | case3 links start step steps hdirectory n hstep hlong =>
    exact .inr ⟨.error .nameTooLong, by simp, fun rest => by simp [walk, hdirectory, hstep, hlong]⟩
  | case4 links start step steps hdirectory n hstep hshort hnext =>
    refine .inr ⟨.ok none, by simp, fun rest => ?_⟩
    simp [walk_cons_name (not_not.1 hdirectory) hstep hshort, hnext]
  | case6 start step steps hdirectory n hstep hshort target hnext =>
    refine .inr ⟨.error .tooManyLinks, by simp, fun rest => ?_⟩
    simp [walk_cons_name (not_not.1 hdirectory) hstep hshort, hnext]
  | case7 start step steps hdirectory n hstep hshort target hnext hfollow links ih =>
    obtain ⟨links', hle, ih⟩ | ih := ih
    · refine .inl ⟨links', Nat.le_succ_of_le hle, ?_⟩
      simpa [walk_cons_name (not_not.1 hdirectory) hstep hshort, hnext] using ih
    · exact .inr (by simpa [walk_cons_name (not_not.1 hdirectory) hstep hshort, hnext] using ih)
  | case8 links start step steps hdirectory n hstep hshort next hlink hnext ih =>
    cases next with
    | link target => exact absurd rfl (hlink target)
    | _ => simpa [walk_cons_name (not_not.1 hdirectory) hstep hshort, hnext] using ih
  | _ => simp_all [walk]

/-- Where some links may be followed, more of them make no difference. -/
theorem walk_mono {links links' : Nat} {start : Place} {out : Option Place} {steps : List Text}
    (h : t.walk true links start steps = .ok out) (hle : links ≤ links') :
    t.walk true links' start steps = .ok out := by
  fun_induction walk t true links start steps generalizing links' with
  | case4 links start step steps hdirectory n hstep hshort hnext =>
    simpa [walk_cons_name (not_not.1 hdirectory) hstep hshort, hnext] using h
  | case6 start step steps hdirectory n hstep hshort target hnext => cases h
  | case7 start step steps hdirectory n hstep hshort target hnext hfollow links ih =>
    cases links' with
    | zero => cases hle
    | succ links' =>
      rw [walk_cons_name (not_not.1 hdirectory) hstep hshort, hnext]
      exact ih h (Nat.le_of_succ_le_succ hle)
  | case8 links start step steps hdirectory n hstep hshort next hlink hnext ih =>
    cases next with
    | link target => exact absurd rfl (hlink target)
    | _ =>
      rw [walk_cons_name (not_not.1 hdirectory) hstep hshort, hnext]
      exact ih h hle
  | _ => simp_all [walk]

/-- An empty step stays in the directory that it is taken in. -/
theorem walk_empty_step {links : Nat} {start : Place}
    (h : t.walk true links start [[]] = .ok (some place)) : start = place := by
  rw [walk] at h
  split at h
  · cases h
  · simpa [Component.ofStep?, walk] using h

/-- Where steps lead to a place, their part without an empty step at the end does, and other steps go on
from there. -/
theorem exists_walk_append_eq {links : Nat} {start : Place} {head last : List Text}
    (hlast : last = [] ∨ last = [[]]) (h : t.walk true links start (head ++ last) = .ok (some place)) :
    ∃ links', ∀ rest, t.walk true links start (head ++ rest) = t.walk true links' place rest := by
  obtain ⟨links', -, start', hgoes⟩ | ⟨out, hout, hends⟩ := t.walk_append links start head
  · have hend : .ok (some place) = t.walk true links' start' last := h.symm.trans (hgoes last)
    have hstart : start' = place := by
      rcases hlast with rfl | rfl
      · rw [walk] at hend
        exact (Option.some.inj (Except.ok.inj hend)).symm
      · exact walk_empty_step hend.symm
    exact ⟨links', hstart ▸ hgoes⟩
  · exact absurd ((hends last).symm.trans h) (hout place)

theorem walk_name {links : Nat} {n : Name} {rest : List Text}
    (hdirectory : t.entry? place = some .directory) (hn : n.Allowed)
    (hnext : t.entry? (place ++ [n]) = some e) (hlink : ∀ target, e ≠ .link target) :
    t.walk true links place (n :: rest) = t.walk true links (place ++ [n]) rest := by
  rw [walk_cons_name hdirectory hn.ofStep? (Nat.not_lt.2 hn.short), hnext]
  cases e with
  | link target => exact absurd rfl (hlink target)
  | _ => rfl

/-- Names lead from a directory to the entry that has them. -/
theorem WellFormed.walk_names (ht : t.WellFormed) {links : Nat}
    (hentry : t.entry? (place ++ names) = some e) (hlink : ∀ target, e ≠ .link target) :
    t.walk true links place names = .ok (some (place ++ names)) := by
  induction names generalizing place with
  | nil => simp [walk]
  | cons n rest ih =>
    have hdirectory : t.entry? place = some .directory :=
      ht.directory_of_append (List.cons_ne_nil n rest) hentry
    have hn : n.Allowed := ht.allowed_of_append hentry n List.mem_cons_self
    rw [List.append_cons] at hentry ⊢
    have hnext : ∃ next, t.entry? (place ++ [n]) = some next ∧ ∀ target, next ≠ .link target := by
      by_cases hrest : rest = []
      · exact ⟨e, by simpa [hrest] using hentry, hlink⟩
      · exact ⟨.directory, ht.directory_of_append hrest hentry, by simp⟩
    obtain ⟨next, hnext, hnextLink⟩ := hnext
    rw [walk_name hdirectory hn hnext hnextLink]
    exact ih hentry

/-! ## Paths that are taken -/

/-- A path has a spelling with which places are looked for. -/
structure Takes (p : Path) : Prop where
  null_not_mem : ∀ c ∈ p.chars, c.toNat ≠ 0
  ne_nil : p.chars ≠ []
  short : Text.byteLength p.chars ≤ pathLimit

theorem Takes.locate {p : Path} (h : Takes p) (t : FileTree) (follow : Bool) :
    t.locate follow p = t.walk follow linkLimit (startIn t.working p) p.steps := by
  have hnull : p.chars.any (·.toNat = 0) = false := by simpa using h.null_not_mem
  rw [FileTree.locate, hnull, if_neg Bool.false_ne_true, if_neg h.ne_nil, if_neg (Nat.not_lt.2 h.short)]

theorem takes_of_locate {p : Path} {follow : Bool}
    (h : t.locate follow p = .ok (some place)) : Takes p := by
  unfold FileTree.locate at h
  split at h
  · cases h
  · next hnull =>
    split at h
    · cases h
    · next hne =>
      split at h
      · cases h
      · next hshort => exact ⟨by simpa using hnull, hne, Nat.not_lt.1 hshort⟩

/-- What can be read is a file at the place that its path leads to. -/
theorem read_eq_ok_iff {p : Path} :
    t.read p = .ok bytes ↔
      ∃ place, t.locate true p = .ok (some place) ∧ t.entry? place = some (.file bytes) := by
  rw [read]
  cases hlocate : t.locate true p with
  | error fault => simp
  | ok spot =>
    cases spot with
    | none => simp
    | some place =>
      cases hentry : t.entry? place with
      | none => simp [hentry]
      | some e => cases e <;> simp [hentry]

theorem takes_of_read {p : Path} (h : t.read p = .ok bytes) : Takes p := by
  obtain ⟨place, hlocate, -⟩ := read_eq_ok_iff.1 h
  exact takes_of_locate hlocate

theorem present_of_read {p : Path} (h : t.read p = .ok bytes) : t.present p = true := by
  obtain ⟨place, hlocate, -⟩ := read_eq_ok_iff.1 h
  simp [present, hlocate]

theorem Takes.of_append {p : Path} {suffix : Text} (h : Takes (p.append suffix))
    (hne : p.chars ≠ []) : Takes p where
  null_not_mem c hc := h.null_not_mem c (List.mem_append_left suffix hc)
  ne_nil := hne
  short := by
    have hshort := h.short
    rw [Path.append, Text.byteLength_append] at hshort
    exact Nat.le_of_add_right_le hshort

/-- A dot and a slash before a path make no difference, where the longer spelling is not too long. -/
theorem WellFormed.read_here (ht : t.WellFormed) {p : Path} (hne : p.chars ≠ [])
    (hrelative : p.isAbsolute = false) (h : Takes ⟨'.' :: '/' :: p.chars⟩) :
    t.read ⟨'.' :: '/' :: p.chars⟩ = t.read p := by
  have htakes : Takes p := by
    refine ⟨fun c hc => h.null_not_mem c (by simp [hc]), hne, ?_⟩
    have hshort : Text.byteLength (['.', '/'] ++ p.chars) ≤ pathLimit := h.short
    rw [Text.byteLength_append] at hshort
    exact Nat.le_of_add_left_le hshort
  have habsolute : Path.isAbsolute ⟨'.' :: '/' :: p.chars⟩ = false := rfl
  have hsteps : Path.steps ⟨'.' :: '/' :: p.chars⟩ = ['.'] :: p.steps := by
    have hsplit : (['.'] ++ '/' :: p.chars).splitOn '/' = ['.'] :: p.chars.splitOn '/' :=
      List.splitOn_append_cons_self ['.'] p.chars
    simp only [Path.steps, habsolute, hrelative, Bool.false_eq_true, if_false]
    exact hsplit
  have hwalk (links : Nat) : t.walk true links t.working (['.'] :: p.steps) =
      t.walk true links t.working p.steps := by
    rw [walk]
    simp [Component.ofStep?, ht.working]
  have hlocate : t.locate true ⟨'.' :: '/' :: p.chars⟩ = t.locate true p := by
    rw [h.locate, htakes.locate, hsteps]
    simp [startIn, habsolute, hrelative, hwalk]
  rw [read, read, hlocate]

/-! ## Files below a directory -/

namespace RealDirectory

/-- A path that goes on below a directory goes on from the place of the directory. -/
theorem walk_descend (h : t.RealDirectory root place) :
    ∃ links, ∀ names ≠ [], (∀ n ∈ names, n.Allowed) →
      t.walk true linkLimit (startIn t.working root) (root.descend names).steps =
        t.walk true links place names := by
  have htakes := takes_of_locate h.located
  have hwalk : t.walk true linkLimit (startIn t.working root) root.steps = .ok (some place) := by
    have hlocated := h.located
    rw [htakes.locate] at hlocated
    exact walk_follow (by simp [h.directory]) hlocated
  obtain ⟨head, last, hlast, hroot, hdescend⟩ := Path.exists_steps_descend htakes.ne_nil
  obtain ⟨links, hhead⟩ := exists_walk_append_eq hlast (hroot ▸ hwalk)
  exact ⟨links, fun names hne hallowed => by rw [hdescend names hne hallowed, hhead]⟩

/-- A file below a directory is at the place to which the names lead, where a longer path than that of the
file is taken. -/
theorem locate_descend (ht : t.WellFormed) (h : t.RealDirectory root place) (hne : names ≠ [])
    (hentry : t.entry? (place ++ names) = some e) (hlink : ∀ target, e ≠ .link target) {suffix : Text}
    (htakes : Takes ((root.descend names).append suffix)) :
    t.locate true (root.descend names) = .ok (some (place ++ names)) := by
  have hallowed : ∀ n ∈ names, n.Allowed := ht.allowed_of_append hentry
  obtain ⟨links, hwalk⟩ := h.walk_descend
  have hroot : root.chars ≠ [] := (takes_of_locate h.located).ne_nil
  have hlonger : (root.descend names).chars ≠ [] := (Path.prefix_descend root names).ne_nil hroot
  have hstart : startIn t.working (root.descend names) = startIn t.working root := by
    rw [startIn, Path.isAbsolute_descend hroot, startIn]
  rw [(htakes.of_append hlonger).locate, hstart, hwalk names hne hallowed]
  exact ht.walk_names hentry hlink

/-- What a regular file below a directory holds is read where a longer path is taken. -/
theorem read_descend_iff (ht : t.WellFormed) (h : t.RealDirectory root place) (hne : names ≠ [])
    (hentry : t.entry? (place ++ names) = some e) (hregular : e.isRegular = true) {suffix : Text}
    (htakes : Takes ((root.descend names).append suffix)) :
    t.read (root.descend names) = .ok bytes ↔ e = .file bytes := by
  have hlink : ∀ target, e ≠ .link target := by
    rintro target rfl
    cases hregular
  rw [read_eq_ok_iff, h.locate_descend ht hne hentry hlink htakes]
  simp [hentry]

end RealDirectory

/-! ## Walks of a directory -/

theorem stepsFrom?_eq_some_iff {steps : List Name} :
    stepsFrom? place inner = some steps ↔ inner = place ++ steps := by
  simp only [stepsFrom?, List.isPrefixOf_iff_prefix]
  constructor
  · intro h
    split at h
    · next hprefix =>
      obtain ⟨rest, rfl⟩ := hprefix
      simpa using h
    · cases h
  · rintro rfl
    simp

theorem stepsToFile?_eq_some_iff {steps : List Name} {entry : Place × Entry} :
    stepsToFile? place entry = some steps ↔
      steps ≠ [] ∧ entry.1 = place ++ steps ∧ entry.2.isRegular = true := by
  obtain ⟨inner, e⟩ := entry
  cases hregular : e.isRegular with
  | false => simp [stepsToFile?, hregular]
  | true =>
    simp only [stepsToFile?, hregular, if_true, Option.filter_eq_some_iff, stepsFrom?_eq_some_iff,
      decide_eq_true_eq, and_true]
    exact and_comm

theorem mem_filesBelow (ht : t.WellFormed) {steps : List Name} :
    steps ∈ t.filesBelow place ↔ t.FileBelow place steps := by
  simp only [filesBelow, List.mem_filterMap, stepsToFile?_eq_some_iff, FileBelow]
  constructor
  · rintro ⟨⟨inner, e⟩, hmem, hne, rfl, hregular⟩
    exact ⟨hne, e, ht.entry?_of_mem (by simp [hne]) hmem, hregular⟩
  · rintro ⟨hne, e, hentry, hregular⟩
    exact ⟨(place ++ steps, e), mem_entries_of_eq_some (by simp [hne]) hentry, hne, rfl, hregular⟩

theorem nodup_filesBelow (ht : t.WellFormed) (place : Place) : (t.filesBelow place).Nodup := by
  rw [filesBelow, List.Nodup, List.pairwise_filterMap]
  refine (List.pairwise_map.1 ht.distinct).imp fun hplaces steps hsteps others hothers hsame => ?_
  obtain ⟨-, hplace, -⟩ := stepsToFile?_eq_some_iff.1 hsteps
  obtain ⟨-, hother, -⟩ := stepsToFile?_eq_some_iff.1 hothers
  exact hplaces (by rw [hplace, hother, hsame])

end FileTree

/-- A view shows a tree: it reads what is there, and what it finds below `root` are the regular files
below `place`, each of them once and in any order. -/
structure Files.Shows (files : Files) (t : FileTree) (root : Path) (place : Place) : Prop where
  read : files.read = t.read
  present : files.present = t.present
  nodup : (files.below root).Nodup
  mem_below : ∀ steps, steps ∈ files.below root ↔ t.FileBelow place steps

/-- The view of a tree shows the tree. -/
theorem FileTree.shows_files {t : FileTree} {root : Path} {place : Place} (ht : t.WellFormed)
    (hroot : t.RealDirectory root place) : t.files.Shows t root place := by
  have hbelow : t.files.below root = t.filesBelow place := by
    simp only [files, below, hroot.located, hroot.directory]
  exact ⟨rfl, rfl, hbelow ▸ nodup_filesBelow ht place, fun steps => by rw [hbelow, mem_filesBelow ht]⟩

end CoverageOverlay
