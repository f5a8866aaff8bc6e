/-!
# Decimal numerals

The digits of a natural number, most significant first, and the number that a run of digits
denotes.
-/

namespace CatalogSearch

namespace Numeral

/-- The character of a digit. -/
def digitChar (digit : Nat) : Char :=
  Char.ofNat (48 + digit)

/-- The value of a character as a digit. -/
def digitValue (character : Char) : Nat :=
  character.toNat - 48

/-- The decimal digits of a number, most significant first and without leading zeros. -/
def digits (number : Nat) : List Char :=
  if number < 10 then [digitChar number]
  else digits (number / 10) ++ [digitChar (number % 10)]
termination_by number
decreasing_by omega

/-- The number denoted by `characters` when they follow the digits of `start`. -/
def valueFrom (start : Nat) (characters : List Char) : Nat :=
  characters.foldl (fun value character => 10 * value + digitValue character) start

/-- The number that a run of decimal digits denotes. -/
def value (characters : List Char) : Nat :=
  valueFrom 0 characters

/-- The decimal text of an integer, with a minus sign when it is negative. -/
def ofInt (number : Int) : List Char :=
  if number < 0 then '-' :: digits number.natAbs else digits number.natAbs

/-- The character of a digit has its value. -/
theorem digitValue_digitChar {digit : Nat} (small : digit < 10) :
    digitValue (digitChar digit) = digit := by
  have cases : digit = 0 ∨ digit = 1 ∨ digit = 2 ∨ digit = 3 ∨ digit = 4 ∨ digit = 5 ∨
      digit = 6 ∨ digit = 7 ∨ digit = 8 ∨ digit = 9 := by omega
  rcases cases with h | h | h | h | h | h | h | h | h | h <;> subst h <;> rfl

/-- The character of a digit is a digit. -/
theorem isDigit_digitChar {digit : Nat} (small : digit < 10) :
    (digitChar digit).isDigit = true := by
  have cases : digit = 0 ∨ digit = 1 ∨ digit = 2 ∨ digit = 3 ∨ digit = 4 ∨ digit = 5 ∨
      digit = 6 ∨ digit = 7 ∨ digit = 8 ∨ digit = 9 := by omega
  rcases cases with h | h | h | h | h | h | h | h | h | h <;> subst h <;> rfl

/-- The decimal text of a number consists of digits. -/
theorem isDigit_of_mem_digits {number : Nat} {character : Char}
    (member : character ∈ digits number) : character.isDigit = true := by
  fun_induction digits number with
  | case1 number small =>
      rw [List.mem_singleton] at member
      rw [member]
      exact isDigit_digitChar small
  | case2 number large ih =>
      rcases List.mem_append.mp member with front | last
      · exact ih front
      · rw [List.mem_singleton] at last
        rw [last]
        exact isDigit_digitChar (Nat.mod_lt _ (by omega))

/-- Reading the digits of a number gives the number back. -/
theorem value_digits (number : Nat) : value (digits number) = number := by
  fun_induction digits number with
  | case1 number small =>
      simp only [value, valueFrom, List.foldl_cons, List.foldl_nil, digitValue_digitChar small]
      omega
  | case2 number large ih =>
      rw [value, valueFrom] at ih ⊢
      rw [List.foldl_append, ih, List.foldl_cons, List.foldl_nil,
        digitValue_digitChar (Nat.mod_lt _ (by omega))]
      omega

end Numeral

end CatalogSearch
