-- SUMMARY: The fewest decimal digits that tell a double-precision number from all others.
import CoverageOverlay.Decimal.Double
import CoverageOverlay.Text.Basic

/-!
# Shortest decimals

Every number that lies between the halves of the way to both neighbours rounds
to the number itself, and the halves do so if the mantissa is even. Among the
decimals in this interval those with the fewest digits are taken, and of these
the one nearest to the number, the greater of two equally near ones. For some
count of digits it is enough to look at the two decimals around the number.

A number is written positionally, without an exponent, and always with a point.
-/

namespace CoverageOverlay.Double

/-- The decimal `digits · 10^exponent`. -/
structure Shortest where
  /-- The digits, as a number. -/
  digits : Nat
  /-- The power of ten that they count. -/
  exponent : Int
deriving DecidableEq, Repr, Inhabited

/-- An interval of fractions over one denominator. -/
structure Interval where
  /-- Four times the number. -/
  value : Nat
  /-- Four times the lower end. -/
  low : Nat
  /-- Four times the upper end. -/
  high : Nat
  denominator : Nat
  /-- Whether the ends belong to the interval. -/
  closed : Bool
deriving DecidableEq, Repr

/-- The interval of what rounds to `mantissa · 2^exponent`. Below a power of two the neighbour is half as
far away. -/
def interval (mantissa : Nat) (exponent : Int) : Interval :=
  let lower := if mantissa = Nat.pow 2 52 ∧ exponent > minExponent then 1 else 2
  let up := Nat.pow 2 exponent.toNat
  ⟨4 * mantissa * up, (4 * mantissa - lower) * up, (4 * mantissa + 2) * up,
    Nat.pow 2 (-exponent).toNat, mantissa % 2 = 0⟩

/-- The decimal with the given digits if it lies in the interval, with its distance from the number. -/
def Interval.candidate? (i : Interval) (digits : Nat) (exponent : Int) : Option (Nat × Shortest) :=
  let up := Nat.pow 10 exponent.toNat
  let down := Nat.pow 10 (-exponent).toNat
  let here := 4 * digits * up * i.denominator
  let value := i.value * down
  let inside :=
    if i.closed then i.low * down ≤ here ∧ here ≤ i.high * down
    else i.low * down < here ∧ here < i.high * down
  if inside then some (if here ≤ value then value - here else here - value, ⟨digits, exponent⟩)
  else none

/-- The nearer of the two decimals around the number on the grid of a power of ten, if one of them lies
in the interval. -/
def Interval.onGrid? (i : Interval) (exponent : Int) : Option Shortest :=
  let floor :=
    i.value * Nat.pow 10 (-exponent).toNat / (4 * i.denominator * Nat.pow 10 exponent.toNat)
  match i.candidate? floor exponent, i.candidate? (floor + 1) exponent with
  | some (below, a), some (above, b) => some (if above ≤ below then b else a)
  | some (_, a), none => some a
  | none, some (_, b) => some b
  | none, none => none

/-- The least power of ten that is greater than the number. -/
def Interval.decimalPoint (i : Interval) : Int :=
  let whole := i.value / (4 * i.denominator)
  if whole ≠ 0 then digitCount whole
  else
    let scaled := i.value * Nat.pow 10 400 / (4 * i.denominator)
    (digitCount scaled : Int) - 400

/-- The shortest decimal of the positive number `mantissa · 2^exponent`; seventeen digits are always
enough. -/
def shortest (mantissa : Nat) (exponent : Int) : Shortest :=
  let i := interval mantissa exponent
  let point := i.decimalPoint
  ((List.range 18).findSome? fun (k : Nat) => i.onGrid? (point - k)).getD default

/-! ## Positional notation -/

/-- A decimal without an exponent, with at least one digit on both sides of the point. -/
def Shortest.positional (s : Shortest) : Text :=
  let digits := Nat.toDigits 10 s.digits
  if 0 ≤ s.exponent then digits ++ List.replicate s.exponent.toNat '0' ++ ['.', '0']
  else
    let places := (-s.exponent).toNat
    let padded := List.replicate (places + 1 - digits.length) '0' ++ digits
    padded.take (padded.length - places) ++ '.' :: padded.drop (padded.length - places)

/-- The text of a number. -/
def text : Double → Text
  | nan => ['N', 'a', 'N']
  | infinite negative => (if negative then ['-'] else []) ++ ['i', 'n', 'f']
  | finite negative mantissa exponent =>
    (if negative then ['-'] else []) ++
      (if mantissa = 0 then ['0', '.', '0'] else (shortest mantissa exponent).positional)

end CoverageOverlay.Double
