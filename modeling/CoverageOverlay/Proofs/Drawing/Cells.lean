-- SUMMARY: Which annotation is seen at a character: the first or the last of those that cover it.
import CoverageOverlay.Drawing.Cells

/-!
# What is seen at a character

Painting goes through the annotations of a set one by one and writes stretches
of cells. Seen from a single character, an annotation either covers it or
leaves its cell alone, so what the cell holds in the end depends on the
annotations that cover the character and on nothing else: on the first of them
or on the last, as the composition says.
-/

namespace CoverageOverlay

/-! ## One annotation -/

namespace Annotation

/-- The character with the zero-based index `i` has one of the positions of an annotation. -/
def Covers (a : Annotation) (i : Nat) : Prop :=
  a.start.toNat ≤ i + 1 ∧ i + 1 < a.stop.toNat

instance (a : Annotation) (i : Nat) : Decidable (a.Covers i) :=
  inferInstanceAs (Decidable (_ ∧ _))

variable {a : Annotation} {length first stop i : Nat} {composition : Composition} {cells : List Cell}

/-- The stretch of an annotation holds the characters of the document that the annotation covers. -/
theorem covers_iff_of_stretch?_eq_some (h : a.stretch? length = some (first, stop))
    (hi : i < length) : a.Covers i ↔ first ≤ i ∧ i < stop := by
  simp only [stretch?] at h
  split at h
  · simp only [Option.some.injEq, Prod.mk.injEq] at h
    obtain ⟨rfl, rfl⟩ := h
    simp only [Covers]
    omega
  · simp at h

theorem bounds_of_stretch?_eq_some (h : a.stretch? length = some (first, stop)) :
    first ≤ stop ∧ stop ≤ length := by
  simp only [stretch?] at h
  split at h
  · next hle =>
    simp only [Option.some.injEq, Prod.mk.injEq] at h
    obtain ⟨rfl, rfl⟩ := h
    exact ⟨hle, Nat.min_le_right _ _⟩
  · simp at h

/-- An annotation without a stretch covers no character of the document. -/
theorem not_covers_of_stretch?_eq_none (h : a.stretch? length = none) (hi : i < length) :
    ¬a.Covers i := by
  simp only [stretch?] at h
  split at h
  · simp at h
  · simp only [Covers]
    omega

@[simp] theorem length_paintOn : (a.paintOn composition cells).length = cells.length := by
  simp only [paintOn]
  split
  · rfl
  · next first stop hstretch =>
    have hbounds := bounds_of_stretch?_eq_some hstretch
    simp only [List.length_append, List.length_map, List.length_drop, List.length_take]
    omega

/-- Painting an annotation changes the cells of the characters that it covers, and no others. -/
theorem getElem?_paintOn (hi : i < cells.length) :
    (a.paintOn composition cells)[i]? =
      some (if a.Covers i then cells[i].paint composition a.state else cells[i]) := by
  simp only [paintOn]
  split
  · next hstretch =>
    rw [if_neg (not_covers_of_stretch?_eq_none hstretch hi), List.getElem?_eq_getElem hi]
  · next first stop hstretch =>
    obtain ⟨hle, hstop⟩ := bounds_of_stretch?_eq_some hstretch
    have hbefore : (cells.take first).length = first := by
      rw [List.length_take]
      omega
    have hpainted : ((cells.take stop).drop first).length = stop - first := by
      rw [List.length_drop, List.length_take]
      omega
    simp only [covers_iff_of_stretch?_eq_some hstretch hi, List.append_assoc]
    by_cases hfirst : i < first
    · rw [if_neg (by omega), List.getElem?_append_left (by omega), List.getElem?_take_of_lt hfirst,
        List.getElem?_eq_getElem hi]
    · rw [List.getElem?_append_right (by omega), hbefore]
      by_cases hlast : i < stop
      · have hindex : first + (i - first) = i := by omega
        rw [if_pos ⟨by omega, hlast⟩,
          List.getElem?_append_left (by simp only [List.length_map]; omega),
          List.getElem?_map, List.getElem?_drop, List.getElem?_take_of_lt (by omega)]
        simp [hindex, hi]
      · have hindex : stop + (i - first - (stop - first)) = i := by omega
        rw [if_neg (by omega), List.getElem?_append_right (by simp only [List.length_map]; omega),
          List.length_map, hpainted, List.getElem?_drop]
        simp [hindex, hi]

end Annotation

/-! ## Many annotations -/

namespace CoverageSet

variable {set : CoverageSet} {length i : Nat} {composition : Composition}

/-- The annotation of a set that is seen at a character. -/
def seen? (set : CoverageSet) (composition : Composition) (i : Nat) : Option Annotation :=
  match composition with
  | .first => set.find? fun a => a.Covers i
  | .last => set.reverse.find? fun a => a.Covers i

theorem seen?_eq_none_iff : set.seen? composition i = none ↔ ∀ a ∈ set, ¬a.Covers i := by
  cases composition <;> simp [seen?]

theorem seen?_eq_some_iff {a : Annotation} :
    set.seen? composition i = some a ↔
      ∃ before after, set = before ++ a :: after ∧ a.Covers i ∧
        (composition = .first → ∀ b ∈ before, ¬b.Covers i) ∧
        (composition = .last → ∀ b ∈ after, ¬b.Covers i) := by
  cases composition with
  | first =>
    simp only [seen?, List.find?_eq_some_iff_append, decide_eq_true_eq]
    constructor
    · rintro ⟨hcovers, before, after, rfl, hbefore⟩
      exact ⟨before, after, rfl, hcovers, by simpa using hbefore, by simp⟩
    · rintro ⟨before, after, rfl, hcovers, hbefore, -⟩
      exact ⟨hcovers, before, after, rfl, by simpa using hbefore⟩
  | last =>
    simp only [seen?, List.find?_eq_some_iff_append, decide_eq_true_eq]
    constructor
    · rintro ⟨hcovers, after, before, hset, hafter⟩
      refine ⟨before.reverse, after.reverse, ?_, hcovers, by simp, by simpa using hafter⟩
      rw [← List.reverse_reverse set, hset]
      simp
    · rintro ⟨before, after, rfl, hcovers, -, hafter⟩
      exact ⟨hcovers, after.reverse, before.reverse, by simp, by simpa using hafter⟩

/-- Paint one cell with annotations that all cover it. The first state that a cell gets stays under one
composition, the last one under the other. -/
theorem foldl_paint (set : CoverageSet) (composition : Composition) (cell : Cell) :
    set.foldl (fun cell a => cell.paint composition a.state) cell =
      match composition with
      | .first => cell.or (set.head?.map Annotation.state)
      | .last => (set.getLast?.map Annotation.state).or cell := by
  induction set generalizing cell with
  | nil => cases composition <;> simp
  | cons a set ih =>
    rw [List.foldl_cons, ih]
    cases composition with
    | first => cases cell <;> simp [Cell.paint]
    | last => cases hlast : set.getLast? <;> simp [Cell.paint, List.getLast?_cons, hlast]

@[simp] theorem length_foldl_paintOn (set : CoverageSet) (composition : Composition)
    (cells : List Cell) :
    (set.foldl (fun cells a => a.paintOn composition cells) cells).length = cells.length := by
  induction set generalizing cells with
  | nil => rfl
  | cons a set ih => rw [List.foldl_cons, ih, Annotation.length_paintOn]

/-- The cell of a character is painted by the annotations that cover the character. -/
theorem getElem?_foldl_paintOn (set : CoverageSet) (composition : Composition) {cells : List Cell}
    (hi : i < cells.length) :
    (set.foldl (fun cells a => a.paintOn composition cells) cells)[i]? =
      some ((set.filter fun a => a.Covers i).foldl
        (fun cell a => cell.paint composition a.state) cells[i]) := by
  induction set generalizing cells with
  | nil => simp [hi]
  | cons a set ih =>
    have hi' : i < (a.paintOn composition cells).length := by simpa using hi
    have hcell : (a.paintOn composition cells)[i]? = some _ := Annotation.getElem?_paintOn hi
    rw [List.getElem?_eq_getElem hi', Option.some.injEq] at hcell
    rw [List.foldl_cons, ih hi', hcell]
    by_cases hcovers : a.Covers i <;> simp [hcovers]

@[simp] theorem length_cells : (set.cells length composition).length = length := by
  simp [cells]

theorem getElem?_cells (hi : i < length) :
    (set.cells length composition)[i]? =
      some ((set.seen? composition i).map Annotation.state) := by
  have hi' : i < (List.replicate length (none : Cell)).length := by simpa using hi
  rw [cells, getElem?_foldl_paintOn set composition hi', foldl_paint]
  cases composition <;> simp [seen?]

/-- A character is drawn in no state if no annotation of the set covers it, and else in the state of the
first or of the last annotation that does, as the composition says. Annotations may reach past the
document, begin behind it, or be given for another one. -/
theorem cells_firstOrLast (set : CoverageSet) (composition : Composition) (hi : i < length) :
    ∃ cell, (set.cells length composition)[i]? = some cell ∧
      (cell = none ↔ ∀ a ∈ set, ¬a.Covers i) ∧
      ∀ s, cell = some s ↔
        ∃ before a after, set = before ++ a :: after ∧ a.Covers i ∧ a.state = s ∧
          (composition = .first → ∀ b ∈ before, ¬b.Covers i) ∧
          (composition = .last → ∀ b ∈ after, ¬b.Covers i) := by
  refine ⟨_, getElem?_cells hi, ?_, fun s => ?_⟩
  · rw [Option.map_eq_none_iff, seen?_eq_none_iff]
  · simp only [Option.map_eq_some_iff, seen?_eq_some_iff]
    constructor
    · rintro ⟨a, ⟨before, after, hset, hcovers, hcomposition⟩, hs⟩
      exact ⟨before, a, after, hset, hcovers, hs, hcomposition⟩
    · rintro ⟨before, a, after, hset, hcovers, hs, hcomposition⟩
      exact ⟨a, ⟨before, after, hset, hcovers, hcomposition⟩, hs⟩

/-- Two annotations overlap and reach past the end of a document of four characters. -/
theorem cells_firstOrLast_overlap :
    1 < 4 ∧
      (cells [⟨1, 9, .executed⟩, ⟨2, 6, .notExecuted⟩] 4 .last)[1]? = some (some .notExecuted) := by
  refine ⟨by decide, ?_⟩
  obtain ⟨cell, hcell, -, hstate⟩ :=
    cells_firstOrLast [⟨1, 9, .executed⟩, ⟨2, 6, .notExecuted⟩] .last (show 1 < 4 by decide)
  rw [hcell, Option.some.injEq, hstate]
  exact ⟨[⟨1, 9, .executed⟩], ⟨2, 6, .notExecuted⟩, [], rfl, by decide, rfl, by simp, by simp⟩

end CoverageSet

end CoverageOverlay
