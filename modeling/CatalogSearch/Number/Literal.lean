import CatalogSearch.Number

/-!
# Reading number literals

A literal is an optional minus sign, an integer part without superfluous zeros, an optional fraction
and an optional exponent. Its significand takes as many digits as fit in 64 bits. A literal that is
too large for a double denotes no number.
-/

namespace CatalogSearch

namespace Literal

/-- Appends digits to a significand while the result fits in 64 bits; also counts them. -/
def absorb (significand : Nat) : List Char → Nat × Nat
  | [] => (significand, 0)
  | digit :: rest =>
      let next := 10 * significand + Numeral.digitValue digit
      if next < 18446744073709551616 then
        let (result, count) := absorb next rest
        (result, count + 1)
      else
        (significand, 0)

/-- The digits that a text begins with, and the text behind them. -/
def spanDigits (characters : List Char) : List Char × List Char :=
  (characters.takeWhile Char.isDigit, characters.dropWhile Char.isDigit)

/-- Whether the digits form an integer part: at least one, and no zero in front of others. -/
def isIntegerPart : List Char → Bool
  | [] => false
  | ['0'] => true
  | first :: _ => first != '0'

/-- Splits an optional fraction, whose digits are empty when there is none. -/
def fraction? : List Char → Option (List Char × List Char)
  | '.' :: rest =>
      let (digits, after) := spanDigits rest
      if digits.isEmpty then none else some (digits, after)
  | rest => some ([], rest)

/-- Reads the digits of an exponent, which end the literal. -/
def exponentDigits? (digits : List Char) : Option Nat :=
  if !digits.isEmpty && digits.all Char.isDigit then some (Numeral.value digits) else none

/-- Reads what follows the fraction: nothing, or an exponent. -/
def exponent? : List Char → Option (Option Int)
  | [] => some none
  | mark :: rest =>
      if mark = 'e' ∨ mark = 'E' then
        match rest with
        | '-' :: digits => (exponentDigits? digits).map fun value : Nat => some (-(value : Int))
        | '+' :: digits => (exponentDigits? digits).map fun value : Nat => some (value : Int)
        | digits => (exponentDigits? digits).map fun value : Nat => some (value : Int)
      else
        none

/-- The double with the given digits and exponent, unless it is too large. -/
def double? (negative : Bool) (whole fraction : List Char) (exponent : Int) : Option Number := do
  let (leading, kept) := absorb 0 whole
  let (significand, used) := absorb leading fraction
  let magnitude ← Magnitude.ofDecimal? significand
    ((whole.length : Int) - kept - used + exponent)
  some (.double ⟨negative, magnitude⟩)

/-- The integer with the given sign, if it is one of 64 bits. A negative zero is none. -/
def integer? (negative : Bool) (whole : List Char) : Option Number :=
  let value := Numeral.value whole
  if negative then
    if inRange : 0 < value ∧ value ≤ 9223372036854775808 then
      some (.integer (-(value : Int)) (by omega))
    else
      none
  else
    if inRange : value < 18446744073709551616 then some (.integer value (by omega)) else none

/-- The parts of a literal. There is no fraction when it has no digits. -/
structure Parts where
  negative : Bool
  whole : List Char
  fraction : List Char
  exponent : Option Int

/-- Splits an unsigned literal under the given sign into its parts. -/
def unsignedParts? (negative : Bool) (characters : List Char) : Option Parts := do
  let (whole, afterWhole) := spanDigits characters
  if !isIntegerPart whole then none
  else
    let (digits, afterFraction) ← fraction? afterWhole
    some ⟨negative, whole, digits, ← exponent? afterFraction⟩

/-- Splits a whole text into the parts of a literal. -/
def parts? : List Char → Option Parts
  | '-' :: rest => unsignedParts? true rest
  | characters => unsignedParts? false characters

/-- The number that the parts of a literal denote, if it is not too large for a double. -/
def Parts.number? (parts : Parts) : Option Number :=
  if parts.fraction.isEmpty ∧ parts.exponent.isNone then
    (integer? parts.negative parts.whole).or (double? parts.negative parts.whole [] 0)
  else
    double? parts.negative parts.whole parts.fraction (parts.exponent.getD 0)

end Literal

/-- The number that a whole text denotes as a literal. -/
def Number.ofLiteral? (characters : List Char) : Option Number := do
  (← Literal.parts? characters).number?

end CatalogSearch
