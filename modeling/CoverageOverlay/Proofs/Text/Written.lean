-- SUMMARY: Numbers and texts are written without loss: as a numeral before anything but a digit, and as bytes.
import Mathlib.Data.List.Basic
import Mathlib.Data.List.Induction
import CoverageOverlay.Numeral
import CoverageOverlay.Proofs.Text.Run
import CoverageOverlay.Text.Utf8

/-!
# Writing without loss

A numeral ends where something other than a digit follows, so a number can be
read off a text that begins with its numeral. A reader that refuses zeros before
other digits accepts the numeral of each number and nothing else. The bytes of a
text determine the text.
-/

namespace CoverageOverlay

open Text (Stops)

namespace Numeral

variable {m n : Nat} {rest rest' : Text}

theorem ofNat_ne_nil (n : Nat) : ofNat n ≠ [] := Nat.toDigits_ne_nil

theorem isDigit_of_mem_ofNat {c : Char} (h : c ∈ ofNat n) : isDigit c = true := by
  have hc := Nat.isDigit_of_mem_toDigits (by decide) (by decide) h
  rw [Char.isDigit_iff_toNat] at hc
  simpa [isDigit, Char.le_def, UInt32.le_iff_toNat_le] using hc

theorem value_ofNat (n : Nat) : value (ofNat n) = n :=
  Nat.ofDigitChars_ten_toDigits

theorem ofNat_injective (h : ofNat m = ofNat n) : m = n := by
  rw [← value_ofNat m, h, value_ofNat]

/-- A number can be read off a text that begins with its numeral and does not go on with a digit. -/
theorem ofNat_append_inj (hrest : Stops isDigit rest) (hrest' : Stops isDigit rest')
    (h : ofNat m ++ rest = ofNat n ++ rest') : m = n ∧ rest = rest' := by
  obtain ⟨htake, hdrop⟩ := Text.span_eq_iff.2 ⟨h, fun _ => isDigit_of_mem_ofNat, hrest'⟩
  obtain ⟨htake', hdrop'⟩ :=
    Text.span_eq_iff.2 ⟨rfl, fun _ => isDigit_of_mem_ofNat (n := m), hrest⟩
  exact ⟨ofNat_injective (htake'.symm.trans htake), hdrop'.symm.trans hdrop⟩

/-! ## Reading a numeral -/

/-- Some digits with no zero before others. -/
structure IsPlain (digits : Text) : Prop extends Text.IsRun isDigit digits where
  lead : digits.head? = some '0' → digits = ['0']

instance (digits : Text) : Decidable (IsPlain digits) :=
  decidable_of_iff (Text.IsRun isDigit digits ∧ (digits.head? = some '0' → digits = ['0']))
    ⟨fun ⟨hrun, hlead⟩ => ⟨hrun, hlead⟩, fun h => ⟨h.toIsRun, h.lead⟩⟩

/-- The 64-bit number that is written with some digits. -/
def written? (digits : Text) : Option UInt64 :=
  if IsPlain digits then word? digits else none

variable {digits : Text} {d : Char}

theorem digit_bounds (h : isDigit d = true) :
    d.toNat - '0'.toNat < 10 ∧ '0'.toNat + (d.toNat - '0'.toNat) = d.toNat := by
  have hbounds : 48 ≤ d.toNat ∧ d.toNat ≤ 57 := by
    simpa [isDigit, Char.le_def, UInt32.le_iff_toNat_le] using h
  have hzero : '0'.toNat = 48 := rfl
  omega

theorem ofNat_digit (h : isDigit d = true) : ofNat (d.toNat - '0'.toNat) = [d] := by
  obtain ⟨hlt, hsum⟩ := digit_bounds h
  rw [ofNat, Nat.toDigits_of_lt_base hlt, List.cons.injEq]
  exact ⟨Char.toNat_inj.1 ((Nat.toNat_digitChar_of_lt_ten hlt).trans hsum), rfl⟩

/-- The numeral of a number that is not zero, with a digit behind it. -/
theorem ofNat_append_digit (hn : n ≠ 0) (h : isDigit d = true) :
    ofNat (10 * n + (d.toNat - '0'.toNat)) = ofNat n ++ [d] := by
  rw [← ofNat_digit h]
  exact (Nat.toDigits_append_toDigits (by decide) (Nat.pos_of_ne_zero hn) (digit_bounds h).1).symm

/-- A numeral without a zero before others is the one that is written for its value. -/
theorem ofNat_value (h : IsPlain digits) : ofNat (value digits) = digits := by
  -- From the end, since it is by its last digit that the numeral of a number grows.
  induction digits using List.reverseRecOn with
  | nil => exact absurd rfl h.ne_nil
  | append_singleton init d ih =>
    have hd : isDigit d = true := h.all d (by simp)
    rw [value_append_singleton]
    by_cases hnil : init = []
    · rw [hnil, value_nil, Nat.mul_zero, Nat.zero_add, List.nil_append, ofNat_digit hd]
    · -- Digits stand behind `init`, so that it does not begin with a zero and is not zero itself.
      have hhead : init.head? ≠ some '0' := by
        intro hzero
        have hlead := h.lead (by rw [List.head?_append, hzero]; rfl)
        simp [List.append_eq_singleton_iff, hnil] at hlead
      have hinit : IsPlain init :=
        ⟨⟨hnil, fun c hc => h.all c (List.mem_append_left _ hc)⟩, fun hzero => absurd hzero hhead⟩
      have hne : value init ≠ 0 := by
        intro hzero
        rw [← ih hinit, hzero] at hhead
        exact hhead rfl
      rw [ofNat_append_digit hne hd, ih hinit]

/-- Only the numeral of zero begins with a zero. -/
theorem eq_zero_of_head?_ofNat (h : (ofNat n).head? = some '0') : n = 0 := by
  induction n using Nat.strongRecOn with
  | _ n ih =>
    by_cases hlt : n < 10
    · rw [ofNat, Nat.toDigits_of_lt_base hlt] at h
      simpa using h
    · have hbase : 10 ≤ n := Nat.le_of_not_lt hlt
      rw [ofNat, Nat.toDigits_of_base_le (by decide) hbase,
        List.head?_append_of_ne_nil _ Nat.toDigits_ne_nil] at h
      have hzero : n / 10 = 0 := ih (n / 10) (by omega) h
      omega

theorem isPlain_ofNat (n : Nat) : IsPlain (ofNat n) := by
  refine ⟨⟨ofNat_ne_nil n, fun _ => isDigit_of_mem_ofNat⟩, fun hzero => ?_⟩
  rw [eq_zero_of_head?_ofNat hzero]
  rfl

theorem written?_eq_some_iff {w : UInt64} : written? digits = some w ↔ digits = ofNat w.toNat := by
  unfold written?
  constructor
  · intro h
    split at h
    · next hplain => rw [← word?_eq_some_iff.1 h, ofNat_value hplain]
    · simp at h
  · rintro rfl
    rw [if_pos (isPlain_ofNat w.toNat), word?_eq_some_iff, value_ofNat]

end Numeral

namespace Utf8

/-- Different texts have different bytes. -/
theorem encode_injective {t u : Text} (h : encode t = encode u) : t = u := by
  have hbytes : (String.ofList t).toByteArray = (String.ofList u).toByteArray := by
    rw [String.toByteArray_ofList, String.toByteArray_ofList]
    exact congrArg List.toByteArray h
  exact String.ofList_injective (String.toByteArray_inj.1 hbytes)

end Utf8

end CoverageOverlay
