-- SUMMARY: Double-precision numbers as exact binary fractions, and rounding a decimal to one.

/-!
# Double-precision numbers

A finite number is `mantissa · 2^exponent` with a mantissa below 2^53 and an
exponent from -1074 to 971; the exponent is as small as the mantissa allows. A
decimal is rounded to the nearest such number, a half to the even mantissa; what
lies beyond the largest one is infinite. All arithmetic is exact.
-/

namespace CoverageOverlay

/-- A number of double precision. -/
inductive Double
  | nan
  | infinite (negative : Bool)
  /-- The number `mantissa · 2^exponent`, or its negative. -/
  | finite (negative : Bool) (mantissa : Nat) (exponent : Int)
deriving DecidableEq, Repr, Inhabited

namespace Double

/-- The least exponent. -/
def minExponent : Int := -1074

/-- The greatest exponent. -/
def maxExponent : Int := 971

/-- The number of decimal digits of a number. -/
def digitCount (n : Nat) : Nat := (Nat.toDigits 10 n).length

/-- The fraction `num / den`, scaled up by `2^(-e)` or down by `2^e`. -/
def scaleBy (num den : Nat) (e : Int) : Nat × Nat :=
  if 0 ≤ e then (num, den * Nat.pow 2 e.toNat) else (num * Nat.pow 2 (-e).toNat, den)

/-- The natural number nearest to `num / den`; a half goes to the even one. -/
def roundHalfEven (num den : Nat) : Nat :=
  let floor := num / den
  let rest := 2 * (num % den)
  if rest > den ∨ (rest = den ∧ floor % 2 = 1) then floor + 1 else floor

/-- The exponent for which the mantissa of `num / den` has 53 bits, or the least exponent if that is
greater. -/
def exponentOf (num den : Nat) : Int :=
  let guess : Int := (num.log2 : Int) - den.log2 - 52
  let (n, d) := scaleBy num den guess
  max minExponent (if n / d < Nat.pow 2 52 then guess - 1 else guess)

/-- The number nearest to the positive fraction `num / den`, with a sign. -/
def ofFraction (negative : Bool) (num den : Nat) : Double :=
  let e := exponentOf num den
  let (n, d) := scaleBy num den e
  let m := roundHalfEven n d
  let (m, e) := if m = Nat.pow 2 53 then (Nat.pow 2 52, e + 1) else (m, e)
  if e > maxExponent then infinite negative else finite negative m e

/-- The number nearest to `digits · 10^exponent`, with a sign. -/
def ofDecimal (negative : Bool) (digits : Nat) (exponent : Int) : Double :=
  if digits = 0 then finite negative 0 minExponent
  else if exponent + digitCount digits > 310 then infinite negative
  else if exponent + digitCount digits < -330 then finite negative 0 minExponent
  else if 0 ≤ exponent then ofFraction negative (digits * Nat.pow 10 exponent.toNat) 1
  else ofFraction negative digits (Nat.pow 10 (-exponent).toNat)

end Double

end CoverageOverlay
