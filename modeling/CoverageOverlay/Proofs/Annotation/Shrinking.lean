-- SUMMARY: What becomes of the annotations of a document when the document gets shorter.
import Mathlib
import CoverageOverlay.Proofs.Annotation.Resolution

/-!
# Shorter documents

The length of a document decides which records are kept, and nothing else. So
the annotations of a shorter document are those of a longer one that still end
within it, in the same order. The longest document of all is the exception:
behind its last character there is no position any more, so that it keeps
nothing, and every document is shorter than it.
-/

namespace CoverageOverlay

/-! ## One record -/

namespace Record

variable {r : Record} {m n : UInt64} {a : Annotation}

/-- A record fits a shorter document if it fits a longer one and ends within the shorter one. -/
theorem fits_shorter_iff {m n : Nat} (hle : m ≤ n) (hn : n < 2 ^ 64 - 1) :
    r.Fits m ↔ r.Fits n ∧ r.start.toNat + r.length.toNat ≤ m := by
  constructor
  · intro hfits
    have hinside := hfits.inside
    exact ⟨⟨hfits.nonempty, by omega, by omega⟩, hinside⟩
  · rintro ⟨hfits, hinside⟩
    exact ⟨hfits.nonempty, hinside, by omega⟩

theorem resolve_shorter_eq_ok_iff (hle : m ≤ n) (hn : n.toNat < 2 ^ 64 - 1) :
    r.resolve m = .ok a ↔ r.resolve n = .ok a ∧ a.stop.toNat ≤ m.toNat + 1 := by
  rw [resolve_eq_ok_iff, resolve_eq_ok_iff, fits_shorter_iff (UInt64.le_iff_toNat_le.1 hle) hn]
  -- Where the annotation has the positions of the record, both bounds speak of the same end.
  have hend (hextent : a.extent = r.extent) :
      a.stop.toNat = r.start.toNat + 1 + r.length.toNat := by
    simp only [extent, Annotation.extent, Prod.mk.injEq] at hextent
    exact hextent.2.1
  constructor
  · rintro ⟨⟨hfits, hinside⟩, hextent⟩
    have hstop := hend hextent
    exact ⟨⟨hfits, hextent⟩, by omega⟩
  · rintro ⟨⟨hfits, hextent⟩, hbound⟩
    have hstop := hend hextent
    exact ⟨⟨hfits, by omega⟩, hextent⟩

theorem toOption_resolve_shorter (r : Record) (hle : m ≤ n) (hn : n.toNat < 2 ^ 64 - 1) :
    (r.resolve m).toOption =
      (r.resolve n).toOption.filter fun a => a.stop.toNat ≤ m.toNat + 1 := by
  have htoOption (outcome : Except Rejection Annotation) (a : Annotation) :
      outcome.toOption = some a ↔ outcome = .ok a := by
    cases outcome <;> simp [Except.toOption]
  ext a
  rw [Option.filter_eq_some_iff, htoOption, htoOption, resolve_shorter_eq_ok_iff hle hn,
    decide_eq_true_eq]

end Record

/-! ## Whole record files -/

namespace CoverageSet

variable {m n : UInt64}

theorem ofText_value (coverage : Text) (n : UInt64) :
    (ofText coverage n).value =
      (ofRecords ((Record.readings coverage).filterMap (·.value)) n).value := by
  rw [ofText, ofReadings_value, ofRecords_value]

/-- The annotations of a shorter document are those of a longer one that end within it. -/
theorem ofRecords_shorter (records : List Record) (hle : m ≤ n) (hn : n.toNat < 2 ^ 64 - 1) :
    (ofRecords records m).value =
      (ofRecords records n).value.filter fun a => a.stop.toNat ≤ m.toNat + 1 := by
  rw [ofRecords_value, ofRecords_value, List.filter_filterMap]
  congr 1
  funext r
  exact r.toOption_resolve_shorter hle hn

/-- Making a document shorter only removes annotations, unless the longer document fills all 64-bit
lengths: that one has no annotation to begin with, so that only where the shorter one has none either
nothing is new. -/
theorem ofText_sublist_iff (coverage : Text) (hle : m ≤ n) :
    ((ofText coverage m).value.Sublist (ofText coverage n).value ↔
        n.toNat < 2 ^ 64 - 1 ∨ (ofText coverage m).value = []) ∧
      (n.toNat < 2 ^ 64 - 1 →
        (ofText coverage m).value =
          (ofText coverage n).value.filter fun a => a.stop.toNat ≤ m.toNat + 1) := by
  simp only [ofText_value]
  generalize (Record.readings coverage).filterMap (·.value) = records
  refine ⟨?_, ofRecords_shorter records hle⟩
  by_cases hn : n.toNat < 2 ^ 64 - 1
  · rw [ofRecords_shorter records hle hn]
    exact iff_of_true List.filter_sublist (.inl hn)
  · have hlongest : n.toNat = 2 ^ 64 - 1 := by
      have hlt := n.toNat_lt
      omega
    rw [ofRecords_eq_nil records hlongest, List.sublist_nil]
    exact (or_iff_right hn).symm

/-- A document of five characters is cut down to four. -/
theorem ofText_sublist_iff_cut :
    let coverage : Text := "A:T,0,4\nA:NIL,2,3".toList
    (4 : UInt64) ≤ 5 ∧
      (ofText coverage 4).value.Sublist (ofText coverage 5).value ∧
      (ofText coverage 4).value = [⟨1, 5, .executed⟩] := by
  refine ⟨by decide, (ofText_sublist_iff _ (by decide)).1.2 (.inl (by decide)), ?_⟩
  cbv

/-- The longest document has no annotation where one of a single character has one. -/
theorem ofText_not_sublist :
    let coverage : Text := "A:T,0,1".toList
    (1 : UInt64) ≤ 18446744073709551615 ∧
      (ofText coverage 1).value = [⟨1, 2, .executed⟩] ∧
      (ofText coverage 18446744073709551615).value = [] ∧
      ¬(ofText coverage 1).value.Sublist (ofText coverage 18446744073709551615).value := by
  have hshort : (ofText "A:T,0,1".toList 1).value = [⟨1, 2, .executed⟩] := by cbv
  have hlongest : (ofText "A:T,0,1".toList 18446744073709551615).value = [] := by cbv
  refine ⟨by decide, hshort, hlongest, ?_⟩
  rw [hshort, hlongest]
  simp

end CoverageSet

end CoverageOverlay
