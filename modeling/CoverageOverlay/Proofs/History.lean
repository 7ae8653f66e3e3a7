-- SUMMARY: Histories that grow at their end, and the latest entry of a kind in them.
import Mathlib.Data.List.Basic

/-!
# Histories

What happened is kept in a list that grows at its end. Statements about the
latest entry of some kind split a history at that entry. How a split changes
when one more entry comes is said once, for any entries.
-/

namespace CoverageOverlay

variable {α : Type} {history earlier later : List α} {x y : α}

/-- A longer history is split at its last entry, or at an entry at which it could be split before. -/
theorem concat_eq_append_cons_iff :
    history ++ [y] = earlier ++ x :: later ↔
      (earlier = history ∧ x = y ∧ later = []) ∨
        ∃ between, later = between ++ [y] ∧ history = earlier ++ x :: between := by
  constructor
  · intro h
    rcases List.eq_nil_or_concat later with rfl | ⟨between, last, rfl⟩
    · obtain ⟨rfl, hlast⟩ := List.append_inj' h rfl
      exact .inl ⟨rfl, by simpa [eq_comm] using hlast, rfl⟩
    · have hsplit : history ++ [y] = (earlier ++ x :: between) ++ [last] := by simpa using h
      obtain ⟨rfl, hlast⟩ := List.append_inj' hsplit rfl
      obtain rfl : y = last := by simpa using hlast
      exact .inr ⟨between, List.concat_eq_append, rfl⟩
  · rintro (⟨rfl, rfl, rfl⟩ | ⟨between, rfl, rfl⟩)
    · rfl
    · simp

/-- The entry `x` of a history has the property `p`, and after it no entry has `p` or `q`. -/
def IsLatest (p q : α → Prop) (history : List α) (x : α) : Prop :=
  ∃ earlier later, history = earlier ++ x :: later ∧ p x ∧ ∀ y ∈ later, ¬p y ∧ ¬q y

variable {p q : α → Prop}

@[simp] theorem not_isLatest_nil : ¬IsLatest p q [] x := by
  rintro ⟨earlier, later, h, -⟩
  simp at h

/-- A last entry with the property `p` is the latest one. Any other last entry leaves the latest one as
it was, unless it has the property `q`. -/
theorem isLatest_concat_iff :
    IsLatest p q (history ++ [y]) x ↔ x = y ∧ p y ∨ IsLatest p q history x ∧ ¬p y ∧ ¬q y := by
  constructor
  · rintro ⟨earlier, later, hhistory, hp, hlater⟩
    rcases concat_eq_append_cons_iff.1 hhistory with ⟨-, rfl, -⟩ | ⟨between, rfl, hbefore⟩
    · exact .inl ⟨rfl, hp⟩
    · obtain ⟨hbetween, hlast⟩ := List.forall_mem_append.1 hlater
      exact .inr ⟨⟨earlier, between, hbefore, hp, hbetween⟩, hlast y (by simp)⟩
  · rintro (⟨rfl, hp⟩ | ⟨⟨earlier, later, rfl, hp, hlater⟩, hlast⟩)
    · exact ⟨history, [], rfl, hp, by simp⟩
    · exact ⟨earlier, later ++ [y], by simp, hp, List.forall_mem_append.2 ⟨hlater, by simpa using hlast⟩⟩

end CoverageOverlay
