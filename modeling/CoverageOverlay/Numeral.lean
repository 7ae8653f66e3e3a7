-- SUMMARY: Decimal numerals without sign: reading, writing, and the 64-bit bound.
import CoverageOverlay.Text.Basic

/-!
# Numerals

A numeral is a run of the digits 0 to 9. Its value is a natural number of any
size; leading zeros are allowed. A word is a value below 2^64.
-/

namespace CoverageOverlay.Numeral

/-- Whether a character is one of the digits 0 to 9. -/
def isDigit (c : Char) : Bool :=
  '0' ≤ c && c ≤ '9'

/-- The value of a run of digits. -/
def value (digits : Text) : Nat :=
  digits.foldl (fun n d => 10 * n + (d.toNat - '0'.toNat)) 0

/-- The value of a run of digits as a 64-bit number, if it is below 2^64. -/
def word? (digits : Text) : Option UInt64 :=
  if value digits < UInt64.size then some (UInt64.ofNat (value digits)) else none

/-- The numeral of a number, without leading zeros. -/
def ofNat (n : Nat) : Text :=
  Nat.toDigits 10 n

@[simp] theorem value_nil : value [] = 0 := rfl

theorem value_append_singleton (ds : Text) (d : Char) :
    value (ds ++ [d]) = 10 * value ds + (d.toNat - '0'.toNat) := by
  simp [value]

theorem word?_eq_some_iff {ds : Text} {w : UInt64} : word? ds = some w ↔ value ds = w.toNat := by
  unfold word?
  constructor
  · intro h
    split at h
    · next hlt =>
      simp only [Option.some.injEq] at h
      subst h
      exact (UInt64.toNat_ofNat_of_lt' hlt).symm
    · simp at h
  · intro h
    have hlt : value ds < UInt64.size := h ▸ w.toNat_lt
    rw [if_pos hlt, h, UInt64.ofNat_toNat]

end CoverageOverlay.Numeral
