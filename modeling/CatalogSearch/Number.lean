import CatalogSearch.Number.Notation

/-!
# Numbers

A number is an integer of at most 64 bits, signed or unsigned, or a finite double. The text of an
integer numeral decides which: one that fits is kept as an integer, and every other numeral is a
double.
-/

namespace CatalogSearch

/-- The integer of 64 signed bits nearest to the given one. -/
def saturate (number : Int) : Int64 :=
  Int64.ofIntClamp number

/-- A number of a JSON text. -/
inductive Number where
  | integer (value : Int)
      (inRange : -9223372036854775808 ≤ value ∧ value < 18446744073709551616)
  | double (value : Double)
deriving DecidableEq

namespace Number

/-- The number with the value of a signed word. -/
def ofInt64 (value : Int64) : Number :=
  .integer value.toInt ⟨Int64.le_toInt value, by have := Int64.toInt_lt value; omega⟩

/-- The number with the value of a short unsigned word. -/
def ofUInt32 (value : UInt32) : Number :=
  .integer value.toNat (by have := value.toNat_lt; omega)

/-- The number with the value of a natural number of at most 64 bits; a larger one becomes the
largest of these. -/
def ofNat (value : Nat) : Number :=
  .integer (min value 18446744073709551615) (by omega)

/-- Whether a number is no double. -/
def isInteger : Number → Bool
  | .integer _ _ => true
  | .double _ => false

/-- The value of an integer that fits a signed word. -/
def toInt64? : Number → Option Int64
  | .integer value _ => if value < 9223372036854775808 then some (Int64.ofInt value) else none
  | .double _ => none

/-- The integer part of a number, or the last integer of 64 bits before it. -/
def toInt64 : Number → Int64
  | .integer value _ => saturate value
  | .double value => saturate value.truncate

/-- The characters that a number is written with. -/
def characters : Number → List Char
  | .integer value _ => Numeral.ofInt value
  | .double value => value.text

/-- The text of a number, as a string. -/
def text (number : Number) : String :=
  String.ofList number.characters

/-- A number is written with the characters of numerals. -/
theorem isNumeral_of_mem_characters {number : Number} {character : Char}
    (member : character ∈ number.characters) : IsNumeral character := by
  cases number with
  | double value => exact Double.isNumeral_of_mem_text member
  | integer value inRange =>
      simp only [characters, Numeral.ofInt] at member
      split at member
      · rcases List.mem_cons.mp member with rfl | digit
        · exact .inr List.mem_cons_self
        · exact .inl (Numeral.isDigit_of_mem_digits digit)
      · exact .inl (Numeral.isDigit_of_mem_digits member)

end Number

end CatalogSearch
