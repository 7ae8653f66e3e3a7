-- SUMMARY: Cutting a text into lines, one line at a time.
import CoverageOverlay.Text.Basic

/-!
# Lines

A line ends at a line feed or at the end of the text. One carriage return
directly before the line feed belongs to the line end; a carriage return
anywhere else, also at the very end of the text, belongs to the line. A line
feed at the end of the text starts no further line.
-/

namespace CoverageOverlay.Text

/-! ## The first line -/

/-- Drop one carriage return at the end. -/
def dropReturn (line : Text) : Text :=
  if line.getLast? = some '\r' then line.dropLast else line

/-- The first line of a text and the text after it; an empty text has no line. -/
def nextLine? (t : Text) : Option (Text × Text) :=
  if t.isEmpty then none
  else
    let line := t.takeWhile (· ≠ '\n')
    match t.dropWhile (· ≠ '\n') with
    | [] => some (line, [])
    | _ :: rest => some (dropReturn line, rest)

theorem nextLine?_nil : nextLine? [] = none := rfl

theorem length_lt_of_nextLine? {t line rest : Text} (h : nextLine? t = some (line, rest)) :
    rest.length < t.length := by
  have hsplit := congrArg List.length (List.takeWhile_append_dropWhile (p := (· ≠ '\n')) (l := t))
  simp only [List.length_append] at hsplit
  unfold nextLine? at h
  split at h
  · simp at h
  · next hne =>
    have hpos : 0 < t.length := List.length_pos_iff.2 (by simpa using hne)
    split at h
    · simp only [Option.some.injEq, Prod.mk.injEq] at h
      obtain ⟨-, rfl⟩ := h
      exact hpos
    · next c r hdrop =>
      simp only [Option.some.injEq, Prod.mk.injEq] at h
      obtain ⟨-, rfl⟩ := h
      rw [hdrop] at hsplit
      simp only [List.length_cons] at hsplit
      omega

/-! ## All lines -/

/-- The lines of a text, in order and without their line ends. -/
def lines (t : Text) : List Text :=
  match _hline : nextLine? t with
  | none => []
  | some (line, rest) => line :: lines rest
termination_by t.length
decreasing_by exact length_lt_of_nextLine? _hline

@[simp] theorem lines_nil : lines [] = [] := by
  rw [lines]; rfl

theorem lines_of_nextLine? {t line rest : Text} (h : nextLine? t = some (line, rest)) :
    lines t = line :: lines rest := by
  rw [lines]
  split
  · next hn => rw [h] at hn; simp at hn
  · next l r hs =>
    rw [h] at hs
    simp only [Option.some.injEq, Prod.mk.injEq] at hs
    obtain ⟨rfl, rfl⟩ := hs
    rfl

end CoverageOverlay.Text
