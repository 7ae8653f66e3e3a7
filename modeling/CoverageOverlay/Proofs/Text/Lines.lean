-- SUMMARY: The lines of a text put together from parts, and induction on the lines of a text.
import CoverageOverlay.Proofs.Text.Run
import CoverageOverlay.Text.Lines

/-!
# Lines of composed texts

A text without a line feed is one line, or none if it is empty. Any other text
is a line, a line feed and a rest whose lines follow. A statement about all
texts can be proved along this division. Where a text is cut between two lines,
its lines are those of the parts, and what is behind the cut has no influence on
the lines before it.
-/

namespace CoverageOverlay.Text

variable {line t rest front middle other : Text}

theorem forall_ne_feed (hline : '\n' ∉ line) : ∀ c ∈ line, decide (c ≠ '\n') = true := by
  intro c hc
  exact decide_eq_true fun h => hline (h ▸ hc)

theorem nextLine?_append_feed (hline : '\n' ∉ line) (rest : Text) :
    nextLine? (line ++ '\n' :: rest) = some (dropReturn line, rest) := by
  have hstops : Stops (· ≠ '\n') ('\n' :: rest) := by simp
  obtain ⟨htake, hdrop⟩ := span_eq_iff.2 ⟨rfl, forall_ne_feed hline, hstops⟩
  simp only [nextLine?, htake, hdrop]
  simp

theorem nextLine?_of_no_feed (ht : '\n' ∉ t) (hne : t ≠ []) : nextLine? t = some (t, []) := by
  obtain ⟨htake, hdrop⟩ :=
    span_eq_iff.2 ⟨(List.append_nil t).symm, forall_ne_feed ht, stops_nil⟩
  simp only [nextLine?, htake, hdrop]
  simp [hne]

theorem lines_append_feed (hline : '\n' ∉ line) (rest : Text) :
    lines (line ++ '\n' :: rest) = dropReturn line :: lines rest :=
  lines_of_nextLine? (nextLine?_append_feed hline rest)

theorem lines_ended (hline : '\n' ∉ line) : lines (line ++ "\n".toList) = [dropReturn line] := by
  simpa using lines_append_feed hline []

theorem lines_of_no_feed (ht : '\n' ∉ t) : lines t = if t = [] then [] else [t] := by
  split
  · next hnil => rw [hnil, lines_nil]
  · next hne => rw [lines_of_nextLine? (nextLine?_of_no_feed ht hne), lines_nil]

/-- Induction on the lines of a text. -/
@[elab_as_elim]
theorem inductionOnLines {motive : Text → Prop} (t : Text)
    (last : ∀ t, '\n' ∉ t → motive t)
    (line : ∀ line rest, '\n' ∉ line → motive rest → motive (line ++ '\n' :: rest)) :
    motive t := by
  induction hlen : t.length using Nat.strongRecOn generalizing t with
  | _ n ih =>
    by_cases hfeed : '\n' ∈ t
    · obtain ⟨before, rest, rfl, hbefore⟩ := List.eq_append_cons_of_mem hfeed
      have hlt : rest.length < n := by
        simp only [List.length_append, List.length_cons] at hlen
        omega
      exact line before rest hbefore (ih rest.length hlt rest rfl)
    · exact last t hfeed

/-- A line is as it was written, or one carriage return shorter. -/
theorem dropReturn_cases (line : Text) :
    dropReturn line = line ∨ line = dropReturn line ++ ['\r'] := by
  unfold dropReturn
  split
  · next hlast =>
    obtain ⟨before, rfl⟩ := List.getLast?_eq_some_iff.1 hlast
    exact .inr (by simp)
  · exact .inl rfl

@[simp] theorem dropReturn_append_return (line : Text) : dropReturn (line ++ ['\r']) = line := by
  simp [dropReturn]

/-! ## Cuts between lines -/

/-- The place between two parts of a text is no place within a line: the first part ends with a line feed,
or one of the parts is empty. -/
def CutsLines (front rest : Text) : Prop :=
  front = [] ∨ rest = [] ∨ front.getLast? = some '\n'

theorem cutsLines_nil (front : Text) : CutsLines front [] := .inr (.inl rfl)

theorem cutsLines_feed (line rest : Text) : CutsLines (line ++ ['\n']) rest :=
  .inr (.inr (by simp))

/-- A cut behind a line and what follows it is a cut behind what follows it. -/
theorem CutsLines.of_append (h : CutsLines (front ++ middle) rest) : CutsLines middle rest := by
  rcases List.eq_nil_or_concat middle with rfl | ⟨init, x, rfl⟩
  · exact .inl rfl
  · rcases h with hnil | hnil | hlast
    · simp at hnil
    · exact .inr (.inl hnil)
    · exact .inr (.inr (by simpa using hlast))

theorem CutsLines.append (h : CutsLines front (middle ++ rest)) (h' : CutsLines middle rest) :
    CutsLines (front ++ middle) rest := by
  rcases h' with rfl | hnil | hlast
  · simpa using h
  · exact .inr (.inl hnil)
  · obtain ⟨init, rfl⟩ := List.getLast?_eq_some_iff.1 hlast
    exact .inr (.inr (by simp))

theorem CutsLines.left (h : CutsLines front (middle ++ rest)) : CutsLines front middle := by
  rcases h with rfl | hnil | hlast
  · exact .inl rfl
  · exact .inr (.inl (List.append_eq_nil_iff.1 hnil).1)
  · exact .inr (.inr hlast)

/-- If there is a cut behind something, what is behind that cut does not matter for an earlier one. -/
theorem CutsLines.exchange (h : CutsLines front (middle ++ rest))
    (h' : CutsLines (front ++ middle) other) : CutsLines front (middle ++ other) := by
  rcases h with rfl | hnil | hlast
  · exact .inl rfl
  · rw [(List.append_eq_nil_iff.1 hnil).1] at h' ⊢
    simpa using h'
  · exact .inr (.inr hlast)

/-- The first line of a text is that of everything which begins with the line and its line end. -/
theorem exists_front_of_nextLine? (h : nextLine? t = some (line, rest)) :
    ∃ front, t = front ++ rest ∧ CutsLines front rest ∧
      ∀ other, CutsLines front other → nextLine? (front ++ other) = some (line, other) := by
  by_cases hfeed : '\n' ∈ t
  · obtain ⟨before, after, rfl, hbefore⟩ := List.eq_append_cons_of_mem hfeed
    rw [nextLine?_append_feed hbefore, Option.some.injEq, Prod.mk.injEq] at h
    obtain ⟨rfl, rfl⟩ := h
    refine ⟨before ++ ['\n'], by simp, cutsLines_feed before after, fun other _ => ?_⟩
    rw [List.append_assoc, List.singleton_append, nextLine?_append_feed hbefore]
  · have hne : t ≠ [] := by
      rintro rfl
      simp [nextLine?_nil] at h
    rw [nextLine?_of_no_feed hfeed hne, Option.some.injEq, Prod.mk.injEq] at h
    obtain ⟨rfl, rfl⟩ := h
    refine ⟨t, by simp, cutsLines_nil t, fun other hother => ?_⟩
    rcases hother with hnil | rfl | hlast
    · exact absurd hnil hne
    · rw [List.append_nil, nextLine?_of_no_feed hfeed hne]
    · exact absurd (List.mem_of_getLast? hlast) hfeed

theorem nextLine?_eq_none_iff : nextLine? t = none ↔ t = [] := by
  constructor
  · intro h
    simp only [nextLine?] at h
    split at h
    · next hnil => simpa using hnil
    · split at h <;> simp at h
  · rintro rfl
    rfl

/-- Induction on the lines of a text as they are read. -/
@[elab_as_elim]
theorem inductionOnNextLine {motive : Text → Prop} (t : Text) (nil : motive [])
    (line : ∀ t line rest, nextLine? t = some (line, rest) → motive rest → motive t) : motive t := by
  induction hlen : t.length using Nat.strongRecOn generalizing t with
  | _ n ih =>
    cases h : nextLine? t with
    | none => rwa [nextLine?_eq_none_iff.1 h]
    | some next =>
      have hlt := length_lt_of_nextLine? h
      exact line t next.1 next.2 h (ih next.2.length (hlen ▸ hlt) next.2 rfl)

/-- The lines of a text that is cut between lines are those of its parts. -/
theorem lines_append (h : CutsLines front rest) : lines (front ++ rest) = lines front ++ lines rest := by
  induction front using inductionOnNextLine with
  | nil => simp
  | line front line more hline ih =>
    obtain ⟨head, rfl, hcut, hsame⟩ := exists_front_of_nextLine? hline
    have hmore := h.of_append
    have hboth : CutsLines head (more ++ rest) := by
      rcases hcut with hnil | rfl | hlast
      · exact .inl hnil
      · simpa using h
      · exact .inr (.inr hlast)
    rw [List.append_assoc, lines_of_nextLine? (hsame _ hboth), lines_of_nextLine? hline, ih hmore,
      List.cons_append]

end CoverageOverlay.Text
