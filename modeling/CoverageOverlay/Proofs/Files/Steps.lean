-- SUMMARY: The steps of a path whose last step is a name, of its parent, of longer names and of siblings.
import CoverageOverlay.Proofs.Files.Names
import Mathlib.Data.List.Induction

/-!
# The steps of a path and of its neighbours

A path that can be the path of a regular file ends in a name: behind a slash at
the end, or a dot, only a directory can stand. The steps before the name are the
way to the directory of the file, and everything that is said of the directory
and of other entries in it is read off these steps. The parent drops the name
and the steps before it that lead nowhere; a suffix without a slash makes the
name longer and leaves the way to it alone.
-/

namespace CoverageOverlay

namespace Path

/-! ## Texts between slashes -/

theorem slash_not_mem_of_mem_splitOn {t step : Text} (h : step ∈ t.splitOn '/') : '/' ∉ step := by
  induction t generalizing step with
  | nil => simp_all [List.splitOn_nil]
  | cons c rest ih =>
    rw [List.splitOn_cons_eq_if_modifyHead] at h
    split at h
    · rcases List.mem_cons.1 h with rfl | hrest
      · exact List.not_mem_nil
      · exact ih hrest
    · next hc =>
      obtain ⟨first, others, hsplit⟩ :=
        List.exists_cons_of_ne_nil (List.splitOn_ne_nil '/' rest)
      rw [hsplit, List.modifyHead_cons] at h
      rcases List.mem_cons.1 h with rfl | hothers
      · have hfirst : '/' ∉ first := ih (hsplit ▸ List.mem_cons_self)
        have hc' : c ≠ '/' := by simpa using hc
        exact List.not_mem_cons_of_ne_of_not_mem hc'.symm hfirst
      · exact ih (hsplit ▸ List.mem_cons_of_mem _ hothers)

/-- What is put behind joined texts is put behind the last one. -/
theorem intercalate_concat_append (slash : Text) (texts : List Text) (last suffix : Text) :
    slash.intercalate (texts ++ [last ++ suffix]) = slash.intercalate (texts ++ [last]) ++ suffix := by
  induction texts with
  | nil => simp
  | cons first rest ih =>
    rw [List.cons_append, List.intercalate_cons_of_ne_nil (by simp), ih, List.cons_append,
      List.intercalate_cons_of_ne_nil (by simp)]
    simp

theorem isAbsolute_intercalate {first : Text} (h : first ≠ [] ∧ '/' ∉ first) (rest : List Text) :
    isAbsolute ⟨['/'].intercalate (first :: rest)⟩ = false := by
  obtain ⟨more, hmore⟩ : ∃ more, ['/'].intercalate (first :: rest) = first ++ more := by
    cases rest with
    | nil => exact ⟨[], by simp⟩
    | cons second rest => exact ⟨_, by rw [List.intercalate_cons_cons, List.append_assoc]⟩
  have hfirst : isAbsolute ⟨first⟩ = false := by
    have hhead : first.head? ≠ some '/' := fun hhead => h.2 (List.mem_of_mem_head? hhead)
    simpa [isAbsolute] using hhead
  rw [hmore, isAbsolute_append (p := ⟨first⟩) h.1, hfirst]

/-! ## Steps that lead nowhere -/

theorem dropInert_concat_of_none {steps : List Text} {step : Text}
    (h : Component.ofStep? step = none) : dropInert (steps ++ [step]) = dropInert steps := by
  simp [dropInert, h]

theorem dropInert_concat_of_some {steps : List Text} {step : Text} {c : Component}
    (h : Component.ofStep? step = some c) : dropInert (steps ++ [step]) = steps ++ [step] := by
  simp [dropInert, h]

theorem dropInert_dropInert (steps : List Text) : dropInert (dropInert steps) = dropInert steps := by
  induction steps using List.reverseRecOn with
  | nil => rfl
  | append_singleton steps step ih =>
    cases hstep : Component.ofStep? step with
    | none => rw [dropInert_concat_of_none hstep, ih]
    | some c => rw [dropInert_concat_of_some hstep, dropInert_concat_of_some hstep]

theorem dropInert_prefix (steps : List Text) : dropInert steps <+: steps := by
  rw [← List.reverse_suffix, dropInert, List.reverse_reverse]
  exact List.dropWhile_suffix _

/-- A step leads nowhere, up, or to the entry that has it as its name. -/
theorem ofStep?_cases (step : Text) : Component.ofStep? step = none ∨
    Component.ofStep? step = some .up ∨ Component.ofStep? step = some (.name step) := by
  unfold Component.ofStep?
  split
  · exact .inl rfl
  · split
    · exact .inr (.inl rfl)
    · exact .inr (.inr rfl)

theorem ofStep?_eq_name_iff {step : Text} : Component.ofStep? step = some (.name step) ↔
    step ≠ [] ∧ step ≠ ['.'] ∧ step ≠ ['.', '.'] := by
  constructor
  · rcases ofStep?_cases step with hnone | hup | hname
    · simp [hnone]
    · simp [hup]
    · rintro -
      refine ⟨?_, ?_, ?_⟩
      all_goals rintro rfl; cases hname
  · rintro ⟨hnil, hdot, hdots⟩
    simp [Component.ofStep?, hnil, hdot, hdots]

/-- A longer name is a name. -/
theorem ofStep?_append {n : Name} (h : Component.ofStep? n = some (.name n)) (suffix : Text) :
    Component.ofStep? (n ++ suffix) = some (.name (n ++ suffix)) := by
  obtain ⟨hnil, hdot, hdots⟩ := ofStep?_eq_name_iff.1 h
  obtain ⟨c, rest, rfl⟩ := List.exists_cons_of_ne_nil hnil
  refine ofStep?_eq_name_iff.2 ⟨List.cons_ne_nil _ _, fun heq => ?_, fun heq => ?_⟩
  · obtain ⟨rfl, hrest⟩ := List.cons_eq_cons.1 heq
    exact hdot (by rw [(List.append_eq_nil_iff.1 hrest).1])
  · obtain ⟨rfl, hrest⟩ := List.cons_eq_cons.1 heq
    rcases List.append_eq_singleton_iff.1 hrest with ⟨rfl, -⟩ | ⟨rfl, -⟩
    · exact hdot rfl
    · exact hdots rfl

theorem eq_of_ofStep? {step : Text} {n : Name} (h : Component.ofStep? step = some (.name n)) :
    step = n := by
  rcases ofStep?_cases step with hnone | hup | hname
  · cases hnone.symm.trans h
  · cases hup.symm.trans h
  · cases hname.symm.trans h
    rfl

/-! ## Paths that end in a name -/

/-- The last step of a path is a name, and `above` are the steps before it. -/
structure EndsIn (p : Path) (above : List Text) (n : Name) : Prop where
  steps : p.steps = above ++ [n]
  isName : Component.ofStep? n = some (.name n)

variable {p : Path} {above : List Text} {n : Name} {suffix : Text}

theorem intercalate_steps (p : Path) : ['/'].intercalate p.steps = p.body :=
  List.intercalate_splitOn '/'

namespace EndsIn

theorem chars_ne_nil (h : p.EndsIn above n) : p.chars ≠ [] := by
  intro hnil
  have hsteps := h.steps
  simp only [Path.steps, isAbsolute, hnil] at hsteps
  have hlast := congrArg List.getLast? hsteps
  simp at hlast
  exact (ofStep?_eq_name_iff.1 h.isName).1 hlast

theorem slash_not_mem (h : p.EndsIn above n) : ∀ step ∈ above ++ [n], '/' ∉ step := by
  intro step hstep
  rw [← h.steps] at hstep
  exact slash_not_mem_of_mem_splitOn hstep

theorem fileName? (h : p.EndsIn above n) : p.fileName? = some n := by
  simp [Path.fileName?, components, h.steps, h.isName]

/-- A suffix without a slash makes the name longer. -/
theorem append (h : p.EndsIn above n) (hsuffix : '/' ∉ suffix) :
    (p.append suffix).EndsIn above (n ++ suffix) where
  steps := by
    have hbody : (p.append suffix).body = p.body ++ suffix := body_append h.chars_ne_nil
    have hjoined : p.body ++ suffix = ['/'].intercalate (above ++ [n ++ suffix]) := by
      rw [intercalate_concat_append, ← h.steps, intercalate_steps]
    rw [steps_eq_splitOn, hbody, hjoined]
    refine List.splitOn_intercalate '/' (fun step hstep => ?_) (by simp)
    rcases List.mem_append.1 hstep with habove | hlast
    · exact h.slash_not_mem step (List.mem_append_left _ habove)
    · have hn : '/' ∉ n := h.slash_not_mem n (by simp)
      simp_all
  isName := ofStep?_append h.isName suffix

/-- The first step of a path that does not start at the top is a text that does not start with a slash,
and not the empty one. -/
theorem first_step {first : Text} {rest : List Text} (h : p.EndsIn above n)
    (hbegins : first :: rest <+: above) (hrelative : p.isAbsolute = false) :
    first ≠ [] ∧ '/' ∉ first := by
  obtain ⟨others, rfl⟩ := hbegins
  refine ⟨?_, h.slash_not_mem first (by simp)⟩
  rintro rfl
  have hchars : p.chars = '/' :: ['/'].intercalate (rest ++ others ++ [n]) := by
    have hbody : p.body = p.chars := by simp [body, hrelative]
    rw [← hbody, ← intercalate_steps, h.steps, List.cons_append, List.cons_append,
      List.intercalate_cons_of_ne_nil (by simp)]
    rfl
  simp [isAbsolute, hchars] at hrelative

/-- The parent of a path starts where the path starts, and takes the steps before the name that lead
anywhere. -/
theorem exists_parent (h : p.EndsIn above n) :
    ∃ q, p.parent? = some q ∧ q.isAbsolute = p.isAbsolute ∧ dropInert q.steps = dropInert above := by
  have hlast : p.components.getLast? = some (.name n) := by
    simp [components, h.steps, h.isName]
  have habove : dropInert (dropInert p.steps).dropLast = dropInert above := by
    rw [h.steps, dropInert_concat_of_some h.isName, List.dropLast_concat]
  have hspelled (steps : List Text) : (steps.intersperse ['/']).flatten = ['/'].intercalate steps := rfl
  simp only [parent?, hlast, habove, hspelled]
  cases hway : dropInert above with
  | nil =>
    cases habsolute : p.isAbsolute with
    | true => exact ⟨⟨['/']⟩, rfl, rfl, rfl⟩
    | false =>
      by_cases hhere : p.anchor = [.here]
      · exact ⟨⟨['.']⟩, by simp [hhere], rfl, rfl⟩
      · exact ⟨⟨[]⟩, by simp [hhere], rfl, rfl⟩
  | cons first rest =>
    have hbegins : first :: rest <+: above := hway ▸ dropInert_prefix above
    have hsplit : (['/'].intercalate (first :: rest)).splitOn '/' = first :: rest :=
      List.splitOn_intercalate '/'
        (fun step hstep => h.slash_not_mem step (List.mem_append_left _ (hbegins.subset hstep)))
        (List.cons_ne_nil first rest)
    have hinert : dropInert (first :: rest) = first :: rest := by
      rw [← hway, dropInert_dropInert]
    cases habsolute : p.isAbsolute with
    | true =>
      refine ⟨⟨'/' :: ['/'].intercalate (first :: rest)⟩, rfl, rfl, ?_⟩
      have hsteps : Path.steps ⟨'/' :: ['/'].intercalate (first :: rest)⟩ = first :: rest := hsplit
      rw [hsteps, hinert]
    | false =>
      have hrelative : isAbsolute ⟨['/'].intercalate (first :: rest)⟩ = false :=
        isAbsolute_intercalate (h.first_step hbegins habsolute) rest
      have hsteps : Path.steps ⟨['/'].intercalate (first :: rest)⟩ = first :: rest := by
        rw [steps_eq_splitOn, body, hrelative]
        exact hsplit
      exact ⟨⟨['/'].intercalate (first :: rest)⟩, by simp, hrelative, by rw [hsteps, hinert]⟩

end EndsIn

theorem exists_endsIn_slash (t : Text) (hn : n.Allowed) :
    ∃ above, EndsIn ⟨t ++ '/' :: n⟩ above n := by
  cases t with
  | nil => exact ⟨[], hn.splitOn_eq, hn.ofStep?⟩
  | cons c rest =>
    by_cases hc : c = '/'
    · subst hc
      have hsteps : Path.steps ⟨'/' :: rest ++ '/' :: n⟩ = rest.splitOn '/' ++ [n] := by
        rw [← hn.splitOn_eq, ← List.splitOn_append_cons_self]
        rfl
      exact ⟨_, hsteps, hn.ofStep?⟩
    · have hrelative : isAbsolute ⟨c :: rest ++ '/' :: n⟩ = false := by simp [isAbsolute, hc]
      have hsteps : Path.steps ⟨c :: rest ++ '/' :: n⟩ = (c :: rest).splitOn '/' ++ [n] := by
        rw [← hn.splitOn_eq, ← List.splitOn_append_cons_self, steps_eq_splitOn, body, hrelative]
        rfl
      exact ⟨_, hsteps, hn.ofStep?⟩

/-- The path of an entry ends in the name of the entry, however the directory is spelled. -/
theorem exists_endsIn_child (p : Path) (hn : n.Allowed) : ∃ above, (p.child n).EndsIn above n := by
  by_cases hempty : p.chars = []
  · have hchild : p.child n = ⟨n⟩ := by simp [child, hempty]
    have hrelative : isAbsolute ⟨n⟩ = false := by simpa [isAbsolute] using hn.head?_ne
    have hsteps : Path.steps ⟨n⟩ = [n] := by
      rw [steps_eq_splitOn, body, hrelative]
      exact hn.splitOn_eq
    exact ⟨[], by rw [hchild, hsteps]; rfl, hn.ofStep?⟩
  · by_cases hslash : p.chars.getLast? = some '/'
    · obtain ⟨before, hchars⟩ := List.getLast?_eq_some_iff.1 hslash
      have hchild : p.child n = ⟨before ++ '/' :: n⟩ := by simp [child, hchars]
      rw [hchild]
      exact exists_endsIn_slash before hn
    · have hchild : p.child n = ⟨p.chars ++ '/' :: n⟩ := by simp [child, hempty, hslash]
      rw [hchild]
      exact exists_endsIn_slash p.chars hn

/-- The path of an entry has the name of the entry as its file name, however the directory is
spelled. -/
theorem fileName?_child (p : Path) (hn : n.Allowed) : (p.child n).fileName? = some n := by
  obtain ⟨above, h⟩ := exists_endsIn_child p hn
  exact h.fileName?

end Path

end CoverageOverlay
