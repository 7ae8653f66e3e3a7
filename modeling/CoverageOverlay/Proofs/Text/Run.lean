-- SUMMARY: Runs of characters of one class, and where a reader of such a run stops.
import CoverageOverlay.Text.Basic

/-!
# Runs

A reader takes as many characters of a class as stand at the head of a text.
Everything that it took is of the class, and what is left does not begin with
the class. These two facts determine what it took, so that a text put together
from a run and a rest can be taken apart again.
-/

namespace CoverageOverlay.Text

/-- At least one character, and all characters of one class. -/
structure IsRun (p : Char → Bool) (run : Text) : Prop where
  ne_nil : run ≠ []
  all : ∀ c ∈ run, p c = true

-- Over characters a bounded statement can also be decided by going through all characters there are,
-- so the decision is spelled out.
instance (p : Char → Bool) (run : Text) : Decidable (IsRun p run) :=
  decidable_of_iff (run ≠ [] ∧ run.all p = true)
    ⟨fun ⟨hne, hall⟩ => ⟨hne, List.all_eq_true.1 hall⟩, fun h => ⟨h.ne_nil, List.all_eq_true.2 h.all⟩⟩

/-- No character of a class stands at the head of a text. -/
def Stops (p : Char → Bool) (t : Text) : Prop :=
  ∀ c ∈ t.head?, p c = false

instance (p : Char → Bool) : (t : Text) → Decidable (Stops p t)
  | [] => .isTrue (by simp [Stops])
  | c :: _ => decidable_of_iff (p c = false) (by simp [Stops])

variable {p : Char → Bool} {run rest t : Text} {c : Char}

@[simp] theorem stops_nil : Stops p [] := by
  simp [Stops]

@[simp] theorem stops_cons : Stops p (c :: rest) ↔ p c = false := by
  simp [Stops]

theorem stops_dropWhile (p : Char → Bool) (t : Text) : Stops p (t.dropWhile p) := by
  intro c hc
  have h := List.head?_dropWhile_not p t
  rw [Option.mem_def] at hc
  rwa [hc] at h

theorem takeWhile_append_of_stops (hrun : ∀ d ∈ run, p d = true) (hrest : Stops p rest) :
    (run ++ rest).takeWhile p = run := by
  rw [List.takeWhile_append_of_pos hrun]
  cases rest with
  | nil => simp
  | cons c rest => simp [stops_cons.1 hrest]

theorem dropWhile_append_of_stops (hrun : ∀ d ∈ run, p d = true) (hrest : Stops p rest) :
    (run ++ rest).dropWhile p = rest := by
  rw [List.dropWhile_append_of_pos hrun]
  cases rest with
  | nil => simp
  | cons c rest => simp [stops_cons.1 hrest]

/-- What a reader takes and leaves are the one way to cut a text into a run and a rest. -/
theorem span_eq_iff :
    t.takeWhile p = run ∧ t.dropWhile p = rest ↔
      t = run ++ rest ∧ (∀ d ∈ run, p d = true) ∧ Stops p rest := by
  constructor
  · rintro ⟨rfl, rfl⟩
    exact ⟨List.takeWhile_append_dropWhile.symm, List.all_eq_true.1 List.all_takeWhile,
      stops_dropWhile p t⟩
  · rintro ⟨rfl, hrun, hrest⟩
    exact ⟨takeWhile_append_of_stops hrun hrest, dropWhile_append_of_stops hrun hrest⟩

end CoverageOverlay.Text
