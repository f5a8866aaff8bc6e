/-!
# Finite doubles, exactly

A finite floating-point number of 64 bits is a sign and a magnitude
`significand * 2 ^ scale / 2 ^ 1074`. The operations compute on natural numbers and round once: to
the nearest double, and from halfway to the one whose significand is even.
-/

namespace CatalogSearch

/-- The magnitude of a finite double, in units of the least positive one. -/
structure Magnitude where
  significand : Nat
  scale : Nat
  significand_lt : significand < Nat.pow 2 53
  normalized : scale = 0 ∨ Nat.pow 2 52 ≤ significand
  scale_le : scale ≤ 2045
deriving DecidableEq

/-- The integer nearest to a quotient, the even one when two are equally near. -/
def nearestQuotient (numerator denominator : Nat) : Nat :=
  let quotient := numerator / denominator
  match compare (2 * (numerator % denominator)) denominator with
  | .lt => quotient
  | .gt => quotient + 1
  | .eq => quotient + quotient % 2

namespace Magnitude

/-- The magnitude with the given significand and scale, if there is one. -/
def ofParts? (significand scale : Nat) : Option Magnitude :=
  if inRange : significand < Nat.pow 2 53 ∧ (scale = 0 ∨ Nat.pow 2 52 ≤ significand) ∧
      scale ≤ 2045 then
    some ⟨significand, scale, inRange.1, inRange.2.1, inRange.2.2⟩
  else
    none

/-- The double nearest to a quotient of naturals, unless it is too large for one. -/
def round? (numerator denominator : Nat) : Option Magnitude :=
  let units := numerator * Nat.pow 2 1074 / denominator
  let scale := if units < Nat.pow 2 53 then 0 else units.log2 - 52
  let significand := nearestQuotient (numerator * Nat.pow 2 1074) (denominator * Nat.pow 2 scale)
  if significand = Nat.pow 2 53 then ofParts? (Nat.pow 2 52) (scale + 1)
  else ofParts? significand scale

/-- The number of least positive doubles that make up the magnitude. -/
def units (magnitude : Magnitude) : Nat :=
  magnitude.significand * Nat.pow 2 magnitude.scale

/-- The largest integer that is not above the magnitude. -/
def floor (magnitude : Magnitude) : Nat :=
  magnitude.units / Nat.pow 2 1074

/-- The rounded product of two magnitudes, unless it is too large. -/
def mul? (left right : Magnitude) : Option Magnitude :=
  round? (left.units * right.units) (Nat.pow 2 2148)

/-- The rounded quotient of two magnitudes, unless it is too large. -/
def div? (left right : Magnitude) : Option Magnitude :=
  round? left.units right.units

/-- The rounded power of ten, unless it is too large. -/
def powerOfTen? (exponent : Nat) : Option Magnitude :=
  round? (Nat.pow 10 exponent) 1

/-- Repeated division by powers of ten of at most `308`, rounding after each. -/
def divideByPowerOfTen? (magnitude : Magnitude) (exponent : Nat) : Option Magnitude :=
  if exponent ≤ 308 then do
    magnitude.div? (← powerOfTen? exponent)
  else if magnitude.significand = 0 then
    some magnitude
  else do
    let quotient ← magnitude.div? (← powerOfTen? 308)
    quotient.divideByPowerOfTen? (exponent - 308)
termination_by exponent
decreasing_by omega

/-- The double that a decimal with the given significand and power of ten is read as.

The significand is rounded first, and the product or quotient with the rounded power of ten is
rounded again, so the result may differ from the nearest double in the last bit. -/
def ofDecimal? (significand : Nat) (exponent : Int) : Option Magnitude := do
  let rounded ← round? significand 1
  if exponent < 0 then
    rounded.divideByPowerOfTen? exponent.natAbs
  else if exponent ≤ 308 then
    rounded.mul? (← powerOfTen? exponent.natAbs)
  else if rounded.significand = 0 then
    some rounded
  else
    none

end Magnitude

/-- A finite double. Zero has two signs. -/
structure Double where
  negative : Bool
  magnitude : Magnitude
deriving DecidableEq

/-- The integer part of a double, with its sign. -/
def Double.truncate (double : Double) : Int :=
  if double.negative then -double.magnitude.floor else double.magnitude.floor

end CatalogSearch
