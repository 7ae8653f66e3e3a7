-- SUMMARY: Resolution as arithmetic without bounds: what is kept, where it lies, and why the rest is not.
import Mathlib.Algebra.Group.Nat.Defs
import CoverageOverlay.Annotation.Resolution

/-!
# Resolution without bounds

Resolution adds 64-bit numbers and looks after each sum whether it is still
one. Taken together, these looks amount to one comparison of natural numbers:
a record is kept if it is not empty, ends within the document, and the document
leaves room for a position after its end. Positions are stated as natural
numbers here, so that a sum that wraps around could not be hidden.
-/

namespace CoverageOverlay

/-! ## One record -/

/-- The positions and the state of an annotation. -/
def Annotation.extent (a : Annotation) : Nat × Nat × State :=
  (a.start.toNat, a.stop.toNat, a.state)

theorem Annotation.extent_injective {a b : Annotation} (h : a.extent = b.extent) : a = b := by
  simp only [extent, Prod.mk.injEq, UInt64.toNat_inj] at h
  obtain ⟨hstart, hstop, hstate⟩ := h
  cases a; cases b; simp_all

namespace Record

/-- The positions that a record covers, counted from one, and what it says of them. -/
def extent (r : Record) : Nat × Nat × State :=
  (r.start.toNat + 1, r.start.toNat + 1 + r.length.toNat,
    if r.executed then .executed else .notExecuted)

/-- A record that covers something and ends within a document of `n` characters. -/
structure Fits (r : Record) (n : Nat) : Prop where
  nonempty : 1 ≤ r.length.toNat
  inside : r.start.toNat + r.length.toNat ≤ n
  document : n ≤ 2 ^ 64 - 2

/-- A record whose positions exist, but not all of them in a document of `n` characters. -/
structure ReachesPast (r : Record) (n : Nat) : Prop where
  nonempty : 1 ≤ r.length.toNat
  document : n ≤ 2 ^ 64 - 2
  outside : n < r.start.toNat + r.length.toNat
  positions : r.start.toNat + r.length.toNat + 1 < 2 ^ 64

instance (r : Record) (n : Nat) : Decidable (r.Fits n) :=
  decidable_of_iff (1 ≤ r.length.toNat ∧ r.start.toNat + r.length.toNat ≤ n ∧ n ≤ 2 ^ 64 - 2)
    ⟨fun ⟨h, h', h''⟩ => ⟨h, h', h''⟩, fun ⟨h, h', h''⟩ => ⟨h, h', h''⟩⟩

variable {r : Record} {n start stop limit : UInt64} {a : Annotation}

theorem window?_eq_some_iff :
    r.window? = some (start, stop) ↔
      r.start.toNat + 1 = start.toNat ∧ r.start.toNat + 1 + r.length.toNat = stop.toNat := by
  simp only [window?, shift, Option.bind_eq_some_iff, Option.map_eq_some_iff,
    checkedAdd?_eq_some_iff, Prod.mk.injEq]
  constructor
  · rintro ⟨first, hstart, last, hstop, rfl, rfl⟩
    exact ⟨hstart, hstart ▸ hstop⟩
  · rintro ⟨hstart, hstop⟩
    exact ⟨start, hstart, stop, hstart ▸ hstop, rfl, rfl⟩

theorem window?_eq_none_iff :
    r.window? = none ↔ 2 ^ 64 ≤ r.start.toNat + 1 + r.length.toNat := by
  simp only [window?, Option.bind_eq_none_iff, Option.map_eq_none_iff, checkedAdd?_eq_none_iff]
  constructor
  · intro h
    cases hstart : checkedAdd? r.start shift with
    | none =>
      have hwide : 2 ^ 64 ≤ r.start.toNat + 1 := checkedAdd?_eq_none_iff.1 hstart
      omega
    | some start =>
      have hsum : r.start.toNat + 1 = start.toNat := checkedAdd?_eq_some_iff.1 hstart
      exact hsum ▸ h start hstart
  · intro h start hstart
    have hsum : r.start.toNat + 1 = start.toNat := checkedAdd?_eq_some_iff.1 hstart
    exact hsum ▸ h

/-- What resolution says of a record, and exactly when. -/
inductive Verdict (r : Record) (n : Nat) : Except Rejection Annotation → Prop
  | kept (a : Annotation) (hfits : r.Fits n) (hextent : a.extent = r.extent) : Verdict r n (.ok a)
  | zeroLength (hzero : r.length.toNat = 0) : Verdict r n (.error .zeroLength)
  | pastEnd (hpast : r.ReachesPast n) : Verdict r n (.error .pastEnd)
  | overflow (hne : r.length.toNat ≠ 0) (hfits : ¬r.Fits n) (hpast : ¬r.ReachesPast n) :
    Verdict r n (.error .overflow)

theorem verdict_resolve (r : Record) (n : UInt64) : r.Verdict n.toNat (r.resolve n) := by
  have hn := n.toNat_lt
  simp only [resolve]
  split
  · next hzero => exact .zeroLength (by simp [hzero])
  · next hlength =>
    have hne : r.length.toNat ≠ 0 := fun h => hlength (UInt64.toNat_inj.1 h)
    split
    · next start stop limit hwindow hlimit =>
      obtain ⟨hstart, hstop⟩ := window?_eq_some_iff.1 hwindow
      have hlimit : n.toNat + 1 = limit.toNat := checkedAdd?_eq_some_iff.1 hlimit
      have hstopLt := stop.toNat_lt
      have hlimitLt := limit.toNat_lt
      split
      · next hgt =>
        have hgt : limit.toNat < stop.toNat := UInt64.lt_iff_toNat_lt.1 hgt
        exact .pastEnd ⟨by omega, by omega, by omega, by omega⟩
      · next hle =>
        have hle : stop.toNat ≤ limit.toNat := UInt64.not_lt.1 hle
        refine .kept _ ⟨by omega, by omega, by omega⟩ ?_
        simp only [extent, Annotation.extent, ← hstart, ← hstop]
        cases r.executed <;> rfl
    · next hnone =>
      have hwide : 2 ^ 64 ≤ r.start.toNat + 1 + r.length.toNat ∨ 2 ^ 64 ≤ n.toNat + 1 := by
        cases hwindow : r.window? with
        | none => exact .inl (window?_eq_none_iff.1 hwindow)
        | some window =>
          cases hlimit : checkedAdd? n shift with
          | none => exact .inr (checkedAdd?_eq_none_iff.1 hlimit)
          | some limit => exact (hnone window.1 window.2 limit hwindow hlimit).elim
      refine .overflow hne (fun h => ?_) (fun h => ?_)
      · have hinside := h.inside
        have hdocument := h.document
        omega
      · have hpositions := h.positions
        have hdocument := h.document
        omega

theorem not_fits_of_zero {n : Nat} (hzero : r.length.toNat = 0) : ¬r.Fits n := by
  intro hfits
  have hnonempty := hfits.nonempty
  omega

theorem ReachesPast.not_fits {n : Nat} (hpast : r.ReachesPast n) : ¬r.Fits n := by
  intro hfits
  have hinside := hfits.inside
  have houtside := hpast.outside
  omega

theorem ReachesPast.length_ne_zero {n : Nat} (hpast : r.ReachesPast n) : r.length.toNat ≠ 0 := by
  have hnonempty := hpast.nonempty
  omega

theorem resolve_eq_ok_iff : r.resolve n = .ok a ↔ r.Fits n.toNat ∧ a.extent = r.extent := by
  have hverdict := verdict_resolve r n
  generalize r.resolve n = outcome at hverdict ⊢
  cases hverdict with
  | kept b hfits hextent =>
    rw [Except.ok.injEq]
    constructor
    · rintro rfl
      exact ⟨hfits, hextent⟩
    · rintro ⟨-, ha⟩
      exact Annotation.extent_injective (hextent.trans ha.symm)
  | zeroLength hzero => simp [not_fits_of_zero hzero]
  | pastEnd hpast => simp [hpast.not_fits]
  | overflow _ hnot _ => simp [hnot]

theorem resolve_eq_zeroLength_iff : r.resolve n = .error .zeroLength ↔ r.length.toNat = 0 := by
  have hverdict := verdict_resolve r n
  generalize r.resolve n = outcome at hverdict ⊢
  cases hverdict with
  | kept _ hfits _ =>
    have hne : r.length.toNat ≠ 0 := fun hzero => not_fits_of_zero hzero hfits
    simp [hne]
  | zeroLength hzero => simp [hzero]
  | pastEnd hpast => simp [hpast.length_ne_zero]
  | overflow hne _ _ => simp [hne]

theorem resolve_eq_pastEnd_iff : r.resolve n = .error .pastEnd ↔ r.ReachesPast n.toNat := by
  have hverdict := verdict_resolve r n
  generalize r.resolve n = outcome at hverdict ⊢
  cases hverdict with
  | kept _ hfits _ =>
    have hnot : ¬r.ReachesPast n.toNat := fun hpast => hpast.not_fits hfits
    simp [hnot]
  | zeroLength hzero =>
    have hnot : ¬r.ReachesPast n.toNat := fun hpast => hpast.length_ne_zero hzero
    simp [hnot]
  | pastEnd hpast => simp [hpast]
  | overflow _ _ hnot => simp [hnot]

theorem resolve_eq_overflow_iff :
    r.resolve n = .error .overflow ↔
      r.length.toNat ≠ 0 ∧ ¬r.Fits n.toNat ∧ ¬r.ReachesPast n.toNat := by
  have hverdict := verdict_resolve r n
  generalize r.resolve n = outcome at hverdict ⊢
  cases hverdict with
  | kept _ hfits _ => simp [hfits]
  | zeroLength hzero => simp [hzero]
  | pastEnd hpast => simp [hpast]
  | overflow hne hfits hpast => simp [hne, hfits, hpast]

theorem map_extent_resolve (r : Record) (n : UInt64) :
    (r.resolve n).toOption.map Annotation.extent =
      if r.Fits n.toNat then some r.extent else none := by
  have hverdict := verdict_resolve r n
  generalize r.resolve n = outcome at hverdict ⊢
  cases hverdict with
  | kept a hfits hextent => simp [Except.toOption, hfits, hextent]
  | zeroLength hzero => simp [Except.toOption, not_fits_of_zero hzero]
  | pastEnd hpast => simp [Except.toOption, hpast.not_fits]
  | overflow _ hnot _ => simp [Except.toOption, hnot]

end Record

/-! ## Whole record files -/

namespace CoverageSet

/-- The annotations of some readings are those of the records among them. -/
theorem collect_value (n : UInt64) (readings : List (Logged (Option Record))) :
    (collect n readings).value.1 =
      (readings.filterMap (·.value)).filterMap fun r => (r.resolve n).toOption := by
  induction readings with
  | nil => rfl
  | cons reading rest ih =>
    simp only [collect, Logged.bind_value]
    cases hvalue : reading.value with
    | none => simpa [hvalue] using ih
    | some r =>
      cases hresolve : r.resolve n with
      | ok a => simp [hvalue, hresolve, ih, Except.toOption]
      | error why => simp [hvalue, hresolve, ih, Except.toOption]

theorem ofReadings_value (readings : List (Logged (Option Record))) (n : UInt64) :
    (ofReadings readings n).value =
      (readings.filterMap (·.value)).filterMap fun r => (r.resolve n).toOption := by
  simp only [ofReadings, Logged.bind_value, ← collect_value]
  rfl

theorem ofRecords_value (records : List Record) (n : UInt64) :
    (ofRecords records n).value = records.filterMap fun r => (r.resolve n).toOption := by
  have hread : ((·.value) ∘ fun r : Record => (pure (some r) : Logged (Option Record))) = some := rfl
  rw [ofRecords, ofReadings_value, List.filterMap_map, hread, List.filterMap_some]

theorem map_extent_ofRecords (records : List Record) (n : UInt64) :
    (ofRecords records n).value.map Annotation.extent =
      (records.filter fun r => r.Fits n.toNat).map Record.extent := by
  rw [ofRecords_value, List.map_filterMap]
  induction records with
  | nil => rfl
  | cons r records ih =>
    rw [List.filterMap_cons, r.map_extent_resolve, ih]
    by_cases hfits : r.Fits n.toNat <;> simp [hfits]

/-- An annotation of a set made from records has the positions of one that fits, and says what it says. -/
theorem exists_fits_of_mem_ofRecords {records : List Record} {n : UInt64} {a : Annotation}
    (h : a ∈ (ofRecords records n).value) : ∃ r ∈ records, r.Fits n.toNat ∧ r.extent = a.extent := by
  have hmem := List.mem_map_of_mem (f := Annotation.extent) h
  rw [map_extent_ofRecords] at hmem
  obtain ⟨r, hr, hextent⟩ := List.mem_map.1 hmem
  obtain ⟨hrecord, hfits⟩ := List.mem_filter.1 hr
  exact ⟨r, hrecord, of_decide_eq_true hfits, hextent⟩

/-- An annotation of a set made from records begins at a position of the document, covers something, and
ends at the latest behind the last position. -/
theorem bounds_of_mem_ofRecords {records : List Record} {n : UInt64} {a : Annotation}
    (h : a ∈ (ofRecords records n).value) :
    1 ≤ a.start.toNat ∧ a.start.toNat < a.stop.toNat ∧ a.stop.toNat ≤ n.toNat + 1 := by
  obtain ⟨r, -, hfits, hextent⟩ := exists_fits_of_mem_ofRecords h
  simp only [Record.extent, Annotation.extent, Prod.mk.injEq] at hextent
  obtain ⟨hstart, hstop, -⟩ := hextent
  have hnonempty := hfits.nonempty
  have hinside := hfits.inside
  omega

/-- A document that fills all 64-bit lengths takes no annotation, since no position is behind it. -/
theorem ofRecords_eq_nil (records : List Record) {n : UInt64} (hn : n.toNat = 2 ^ 64 - 1) :
    (ofRecords records n).value = [] := by
  have hkept : (records.filter fun r => r.Fits n.toNat) = [] := by
    rw [List.filter_eq_nil_iff]
    intro r _ hfits
    have hdocument := (of_decide_eq_true hfits).document
    omega
  have hextents := map_extent_ofRecords records n
  rw [hkept, List.map_nil] at hextents
  exact List.map_eq_nil_iff.1 hextents

/-- Resolution is exact arithmetic: with sums of natural numbers, the records that fit are kept in
their order and with their duplicates, each as the annotation of its own positions, and every other
record is refused for the reason that the sums give. -/
theorem ofRecords_exact (records : List Record) (n : UInt64) :
    (ofRecords records n).value.map Annotation.extent =
        (records.filter fun r => r.Fits n.toNat).map Record.extent ∧
      (n.toNat = 2 ^ 64 - 1 → (ofRecords records n).value = []) ∧
      (∀ r : Record,
        (∀ a, r.resolve n = .ok a ↔ r.Fits n.toNat ∧ a.extent = r.extent) ∧
        (r.resolve n = .error .zeroLength ↔ r.length.toNat = 0) ∧
        (r.resolve n = .error .pastEnd ↔ r.ReachesPast n.toNat) ∧
        (r.resolve n = .error .overflow ↔
          r.length.toNat ≠ 0 ∧ ¬r.Fits n.toNat ∧ ¬r.ReachesPast n.toNat)) ∧
      ∀ a ∈ (ofRecords records n).value,
        1 ≤ a.start.toNat ∧ a.start.toNat < a.stop.toNat ∧ a.stop.toNat ≤ n.toNat + 1 := by
  refine ⟨map_extent_ofRecords records n, ofRecords_eq_nil records, fun r => ?_,
    fun a => bounds_of_mem_ofRecords⟩
  exact ⟨fun a => r.resolve_eq_ok_iff, r.resolve_eq_zeroLength_iff, r.resolve_eq_pastEnd_iff,
    r.resolve_eq_overflow_iff⟩

/-- The last character of the longest document that takes annotations, and the next longer document. -/
theorem ofRecords_exact_longest :
    let records : List Record := [⟨['A'], true, 18446744073709551613, 1⟩, ⟨['B'], false, 5, 0⟩]
    (ofRecords records 18446744073709551614).value.map Annotation.extent =
        [(18446744073709551614, 18446744073709551615, .executed)] ∧
      (18446744073709551615 : UInt64).toNat = 2 ^ 64 - 1 ∧
      (ofRecords records 18446744073709551615).value = [] := by
  refine ⟨?_, by decide, (ofRecords_exact _ _).2.1 (by decide)⟩
  rw [(ofRecords_exact _ _).1]
  decide

end CoverageSet

end CoverageOverlay
