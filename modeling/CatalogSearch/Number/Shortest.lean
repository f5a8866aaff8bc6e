import CatalogSearch.Number.Double
import CatalogSearch.Number.Numeral

/-!
# The shortest decimal of a double

Among the decimals that read back as a given double, the one with the fewest digits is chosen, and
among those the nearest. Every comparison is between natural numbers.
-/

namespace CatalogSearch

/-- The decimal `digits * 10 ^ exponent`. -/
structure Decimal where
  digits : Nat
  exponent : Int
deriving DecidableEq

namespace Magnitude

/-- The magnitude in quarters of the least positive double. -/
def quarters (magnitude : Magnitude) : Nat :=
  4 * magnitude.units

/-- The lower end, in quarters, of the reals that round to the magnitude. The gap below a power of
two is half the gap above it. -/
def lowerEnd (magnitude : Magnitude) : Nat :=
  let gap := if magnitude.significand = Nat.pow 2 52 ∧ 0 < magnitude.scale then 1 else 2
  magnitude.quarters - gap * Nat.pow 2 magnitude.scale

/-- The upper end, in quarters, of the reals that round to the magnitude. -/
def upperEnd (magnitude : Magnitude) : Nat :=
  magnitude.quarters + 2 * Nat.pow 2 magnitude.scale

end Magnitude

namespace Decimal

/-- The decimal as a fraction of quarters of the least positive double. -/
def quarters (decimal : Decimal) : Nat × Nat :=
  (decimal.digits * Nat.pow 10 decimal.exponent.toNat * Nat.pow 2 1076,
    Nat.pow 10 (-decimal.exponent).toNat)

/-- Whether the decimal lies among the reals that round to the magnitude, whose two ends belong to
the even significands. -/
def readsAs (decimal : Decimal) (magnitude : Magnitude) : Bool :=
  let (numerator, denominator) := decimal.quarters
  let low := magnitude.lowerEnd * denominator
  let high := magnitude.upperEnd * denominator
  if magnitude.significand % 2 = 0 then
    low ≤ numerator && numerator ≤ high
  else
    low < numerator && numerator < high

/-- Twice the distance between the decimal and the magnitude, on the scale of the decimal. -/
def distance (decimal : Decimal) (magnitude : Magnitude) : Nat :=
  let (numerator, denominator) := decimal.quarters
  let exact := magnitude.quarters * denominator
  (numerator - exact) + (exact - numerator)

/-- The nearer of the two multiples of `10 ^ exponent` around the magnitude that reads as it. -/
def onGrid? (magnitude : Magnitude) (exponent : Int) : Option Decimal :=
  let below := magnitude.quarters * Nat.pow 10 (-exponent).toNat /
    (Nat.pow 10 exponent.toNat * Nat.pow 2 1076)
  let low : Decimal := ⟨below, exponent⟩
  let high : Decimal := ⟨below + 1, exponent⟩
  match low.readsAs magnitude, high.readsAs magnitude with
  | true, false => some low
  | false, true => some high
  | true, true =>
      match compare (low.distance magnitude) (high.distance magnitude) with
      | .lt => some low
      | .gt => some high
      | .eq => some (if below % 2 = 0 then low else high)
  | false, false => none

/-- The exponent of the leading digit of a positive magnitude. -/
def leadingExponent (magnitude : Magnitude) : Int :=
  (Numeral.digits (magnitude.units * Nat.pow 10 400 / Nat.pow 2 1074)).length - 401

/-- The first grid, from coarse to fine, that holds a decimal reading as the magnitude. -/
def search (magnitude : Magnitude) (exponent : Int) : Nat → Decimal
  | 0 => ⟨magnitude.units * Nat.pow 5 1074, -1074⟩
  | count + 1 =>
      match onGrid? magnitude exponent with
      | some decimal => decimal
      | none => search magnitude (exponent - 1) count

/-- The decimal with the fewest digits, at most 17, that stands for the magnitude. -/
def shortest (magnitude : Magnitude) : Decimal :=
  if magnitude.significand = 0 then ⟨0, 0⟩
  else search magnitude (leadingExponent magnitude) 17

end Decimal

end CatalogSearch
