-- SUMMARY: Records that do not contradict each other may change places: the drawing stays the same.
import Mathlib.Data.List.Perm.Basic
import CoverageOverlay.Drawing.Markup
import CoverageOverlay.Proofs.Annotation.Resolution
import CoverageOverlay.Proofs.Drawing.Cells

/-!
# Records in another order

Two records contradict each other if they cover a common character and one of
them says that it was executed, the other that it was not. What is drawn at a
character depends on the records that cover it. All of these have the character
in common, so any two of them that differ contradict each other: where such
records keep their order, what is said of the character, record by record, is
the same sequence, and so are its first and its last word.
-/

namespace CoverageOverlay

/-! ## Lists in another order -/

section

variable {α β : Type} {f : α → β}

theorem map_append_cons_of_forall_eq {before after : List α} {x : α} (h : ∀ y ∈ before, f y = f x) :
    (before ++ x :: after).map f = f x :: (before ++ after).map f := by
  induction before with
  | nil => rfl
  | cons y before ih =>
    have hy : f y = f x := h y List.mem_cons_self
    have hrest : (before ++ x :: after).map f = f x :: (before ++ after).map f :=
      ih fun z hz => h z (List.mem_cons_of_mem y hz)
    simp only [List.cons_append, List.map_cons, hrest, hy]

/-- Numbered things come in another order. If those with different images come by their numbers, the
sequence of the images is the one that belongs to the order of the numbers. -/
theorem map_eq_of_perm {listed sorted : List (α × Nat)} (hperm : listed.Perm sorted)
    (hsorted : sorted.Pairwise fun x y => x.2 < y.2)
    (hkept : listed.Pairwise fun x y => f x.1 ≠ f y.1 → x.2 < y.2) :
    listed.map (fun x => f x.1) = sorted.map fun x => f x.1 := by
  induction listed generalizing sorted with
  | nil => rw [hperm.nil_eq]
  | cons x listed ih =>
    obtain ⟨before, after, rfl⟩ := List.append_of_mem (hperm.subset List.mem_cons_self)
    obtain ⟨hfirst, hkept⟩ := List.pairwise_cons.1 hkept
    have hrest : listed.Perm (before ++ after) := (hperm.trans List.perm_middle).cons_inv
    have hsorted' : (before ++ after).Pairwise fun x y => x.2 < y.2 :=
      hsorted.sublist ((List.Sublist.refl before).append (List.sublist_cons_self x after))
    have hsame : ∀ y ∈ before, f y.1 = f x.1 := by
      intro y hy
      have hlt : y.2 < x.2 := (List.pairwise_append.1 hsorted).2.2 y hy x List.mem_cons_self
      have hmem : y ∈ listed := hrest.symm.subset (List.mem_append_left after hy)
      by_contra hne
      exact Nat.lt_asymm hlt (hfirst y hmem fun h => hne h.symm)
    rw [List.map_cons, ih hrest hsorted' hkept]
    exact (map_append_cons_of_forall_eq (f := fun x : α × Nat => f x.1) hsame).symm

end

/-! ## Records that contradict each other -/

namespace Record

/-- The character with the zero-based index `i` is in the range of a record. -/
def Covers (r : Record) (i : Nat) : Prop :=
  r.start.toNat ≤ i ∧ i < r.start.toNat + r.length.toNat

instance (r : Record) (i : Nat) : Decidable (r.Covers i) :=
  inferInstanceAs (Decidable (_ ∧ _))

/-- The ranges of two records share a character, and the records say different things of it. -/
def Contradicts (r s : Record) : Prop :=
  (∃ i, r.Covers i ∧ s.Covers i) ∧ r.executed ≠ s.executed

/-- Two ranges share a character if the first character that both could have is before both ends. -/
theorem exists_covers_iff {r s : Record} :
    (∃ i, r.Covers i ∧ s.Covers i) ↔
      r.Covers (max r.start.toNat s.start.toNat) ∧ s.Covers (max r.start.toNat s.start.toNat) := by
  constructor
  · rintro ⟨i, hr, hs⟩
    simp only [Covers] at hr hs ⊢
    omega
  · intro h
    exact ⟨_, h⟩

instance (r s : Record) : Decidable (r.Contradicts s) :=
  decidable_of_iff
    ((r.Covers (max r.start.toNat s.start.toNat) ∧ s.Covers (max r.start.toNat s.start.toNat)) ∧
      r.executed ≠ s.executed)
    (and_congr_left' exists_covers_iff.symm)

/-- The records `reordered` are the records `records` in another order, in which any two that contradict
each other come as they did. The records are numbered, so that each of several equal ones has a place of
its own. -/
def Reorders (records reordered : List Record) : Prop :=
  ∃ numbered : List (Record × Nat), numbered.Perm records.zipIdx ∧
    numbered.map Prod.fst = reordered ∧
    numbered.Pairwise fun r s => r.1.Contradicts s.1 → r.2 < s.2

/-! ## What is said of a character -/

/-- What the records that fit a document of `n` characters say of the character with the index `i`, record
by record. -/
def statements (records : List Record) (n i : Nat) : List Bool :=
  (records.filter fun r => r.Fits n ∧ r.Covers i).map executed

variable {records reordered : List Record}

theorem statements_map_fst (numbered : List (Record × Nat)) (n i : Nat) :
    statements (numbered.map Prod.fst) n i =
      (numbered.filter fun r => r.1.Fits n ∧ r.1.Covers i).map fun r => r.1.executed := by
  rw [statements, List.filter_map, List.map_map]
  rfl

/-- A reordering changes nothing in what is said of a character. -/
theorem statements_of_reorders (h : Reorders records reordered) (n i : Nat) :
    statements reordered n i = statements records n i := by
  obtain ⟨numbered, hperm, rfl, hkept⟩ := h
  have hnumbered : records.zipIdx.map Prod.fst = records := List.zipIdx_map_fst 0 records
  have hsorted : records.zipIdx.Pairwise fun r s => r.2 < s.2 := by
    have hnumbers : (records.zipIdx.map Prod.snd).Pairwise (· < ·) := by
      rw [List.zipIdx_map_snd]
      exact List.pairwise_lt_range'
    exact List.pairwise_map.1 hnumbers
  have hsaid : statements (numbered.map Prod.fst) n i =
      statements (records.zipIdx.map Prod.fst) n i := by
    rw [statements_map_fst, statements_map_fst]
    refine map_eq_of_perm (hperm.filter _) (hsorted.filter _) ?_
    rw [List.pairwise_filter]
    refine hkept.imp fun hkept hr hs hne => hkept ⟨⟨i, ?_, ?_⟩, hne⟩
    · exact (of_decide_eq_true hr).2
    · exact (of_decide_eq_true hs).2
  rw [hsaid, hnumbered]

end Record

/-! ## Drawings -/

namespace CoverageSet

variable {set other : CoverageSet} {length : Nat} {composition : Composition}

/-- Two sets are drawn alike if the states of the annotations that cover a character are, one by one, the
same in both. -/
theorem cells_congr
    (h : ∀ i < length, (set.filter fun a => a.Covers i).map Annotation.state =
      (other.filter fun a => a.Covers i).map Annotation.state) :
    set.cells length composition = other.cells length composition := by
  refine List.ext_getElem? fun i => ?_
  by_cases hi : i < length
  · have hcells : i < (List.replicate length (none : Cell)).length := by simpa using hi
    have hpaint (set : CoverageSet) (cell : Cell) :
        set.foldl (fun cell a => cell.paint composition a.state) cell =
          (set.map Annotation.state).foldl (fun cell s => cell.paint composition s) cell :=
      List.foldl_map.symm
    rw [cells, cells, getElem?_foldl_paintOn set composition hcells,
      getElem?_foldl_paintOn other composition hcells, hpaint, hpaint, h i hi]
  · rw [List.getElem?_eq_none (by simpa using hi), List.getElem?_eq_none (by simpa using hi)]

/-- The states of the annotations that cover a character are what the records say of it. -/
theorem map_state_ofRecords (records : List Record) (n : UInt64) (i : Nat) :
    ((ofRecords records n).value.filter fun a => a.Covers i).map Annotation.state =
      (Record.statements records n.toNat i).map State.ofExecuted := by
  let covers (extent : Nat × Nat × State) : Bool := extent.1 ≤ i + 1 ∧ i + 1 < extent.2.1
  have hcovers (r : Record) : covers r.extent = decide (r.Covers i) := by
    refine decide_eq_decide.2 ?_
    simp only [Record.extent, Record.Covers]
    omega
  calc ((ofRecords records n).value.filter fun a => a.Covers i).map Annotation.state
      = (((ofRecords records n).value.map Annotation.extent).filter covers).map (·.2.2) := by
        rw [List.filter_map, List.map_map]
        rfl
    _ = ((records.filter fun r => r.Fits n.toNat ∧ r.Covers i).map Record.extent).map (·.2.2) := by
        rw [map_extent_ofRecords, List.filter_map, List.filter_filter]
        congr 2
        refine List.filter_congr fun r _ => ?_
        simp only [Function.comp_apply, hcovers, Bool.decide_and, Bool.and_comm]
    _ = (Record.statements records n.toNat i).map State.ofExecuted := by
        rw [Record.statements, List.map_map, List.map_map]
        refine List.map_congr_left fun r _ => ?_
        cases hexecuted : r.executed <;> simp [Record.extent, State.ofExecuted, hexecuted]

/-- Records that do not contradict each other can be exchanged: whatever the document, its length as the
records are resolved, the composition and the markup, the drawing is the same. -/
theorem draw_ofRecords_reordered {records reordered : List Record}
    (h : Record.Reorders records reordered) (n : UInt64) (document : Text) (composition : Composition)
    (markup : Markup) :
    (ofRecords reordered n).value.draw document composition markup =
      (ofRecords records n).value.draw document composition markup := by
  have hcells : (ofRecords reordered n).value.cells document.length composition =
      (ofRecords records n).value.cells document.length composition := by
    refine cells_congr fun i _ => ?_
    rw [map_state_ofRecords, map_state_ofRecords, Record.statements_of_reorders h]
  rw [draw, draw, hcells]

/-- The last of three records comes first. It says something else than the second, which covers other
characters; the first two contradict each other at the character `b`. -/
theorem draw_ofRecords_reordered_apart :
    let a : Record := ⟨['A'], true, 0, 2⟩
    let b : Record := ⟨['B'], false, 1, 2⟩
    let c : Record := ⟨['C'], true, 3, 1⟩
    Record.Reorders [a, b, c] [c, a, b] ∧ a.Contradicts b ∧
      (ofRecords [c, a, b] 4).value.draw "abcd".toList .last .plain =
        "{coverage-executed a}{coverage-not-executed bc}{coverage-executed d}".toList := by
  intro a b c
  have hreorders : Record.Reorders [a, b, c] [c, a, b] :=
    ⟨[(c, 2), (a, 0), (b, 1)], by decide, rfl, by decide⟩
  refine ⟨hreorders, by decide, ?_⟩
  rw [draw_ofRecords_reordered hreorders]
  decide

end CoverageSet

end CoverageOverlay
