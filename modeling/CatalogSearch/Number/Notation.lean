import CatalogSearch.Number.Shortest

/-!
# The text of a double

Doubles are written with their shortest digits: positionally while the leading digit stands between
`10 ^ -5` and `10 ^ 15`, and otherwise with a signed exponent.
-/

namespace CatalogSearch

namespace Decimal

/-- The significant digits: those of the numeral without the zeros at its end. -/
def significantDigits (decimal : Decimal) : List Char :=
  match ((Numeral.digits decimal.digits).reverse.dropWhile (· == '0')).reverse with
  | [] => ['0']
  | digits => digits

/-- The power of ten of the first significant digit. -/
def exponentOfLeading (decimal : Decimal) : Int :=
  decimal.exponent + (Numeral.digits decimal.digits).length - 1

/-- Positional notation, with at least one digit on each side of the point. -/
def positional (digits : List Char) (leading : Int) : List Char :=
  if leading < 0 then
    '0' :: '.' :: List.replicate (leading.natAbs - 1) '0' ++ digits
  else
    let whole := leading.toNat + 1
    if digits.length ≤ whole then
      digits ++ List.replicate (whole - digits.length) '0' ++ ['.', '0']
    else
      digits.take whole ++ '.' :: digits.drop whole

/-- Notation with an exponent, whose sign is always written. -/
def exponential (digits : List Char) (leading : Int) : List Char :=
  let sign := if leading < 0 then '-' else '+'
  let exponent := 'e' :: sign :: Numeral.digits leading.natAbs
  match digits with
  | first :: second :: rest => first :: '.' :: second :: rest ++ exponent
  | short => short ++ exponent

/-- The text of a decimal, with an exponent if it is very large or very small. -/
def text (decimal : Decimal) : List Char :=
  let digits := decimal.significantDigits
  let leading := decimal.exponentOfLeading
  if -5 ≤ leading ∧ leading ≤ 15 then positional digits leading else exponential digits leading

end Decimal

/-- The text of a double: a minus sign when it is negative, and the shortest decimal. -/
def Double.text (double : Double) : List Char :=
  let magnitude := (Decimal.shortest double.magnitude).text
  if double.negative then '-' :: magnitude else magnitude

/-- Whether a character may stand in the text of a number. -/
def IsNumeral (character : Char) : Prop :=
  character.isDigit = true ∨ character ∈ ['-', '+', '.', 'e']

namespace Decimal

/-- The significant digits of a decimal are digits. -/
theorem isDigit_of_mem_significantDigits {decimal : Decimal} {character : Char}
    (member : character ∈ decimal.significantDigits) : character.isDigit = true := by
  unfold significantDigits at member
  split at member
  · rw [List.mem_singleton] at member
    rw [member]
    rfl
  · have inside := (List.dropWhile_sublist _).mem (List.mem_reverse.mp member)
    exact Numeral.isDigit_of_mem_digits (List.mem_reverse.mp inside)

/-- A decimal without exponent is written with the characters of numerals. -/
theorem isNumeral_of_mem_positional {digits : List Char} {leading : Int}
    (every : ∀ digit ∈ digits, digit.isDigit = true) {character : Char}
    (member : character ∈ positional digits leading) : IsNumeral character := by
  have zero : IsNumeral '0' := .inl rfl
  have point : IsNumeral '.' := .inr (by simp)
  unfold positional at member
  dsimp only at member
  split at member
  · simp only [List.mem_cons, List.mem_append, List.mem_replicate, List.cons_append] at member
    rcases member with rfl | rfl | ⟨_, rfl⟩ | digit
    · exact zero
    · exact point
    · exact zero
    · exact .inl (every character digit)
  · split at member
    · simp only [List.mem_cons, List.mem_append, List.mem_replicate, List.not_mem_nil,
        or_false] at member
      rcases member with (digit | ⟨_, rfl⟩) | rfl | rfl
      · exact .inl (every character digit)
      · exact zero
      · exact point
      · exact zero
    · rcases List.mem_append.mp member with front | back
      · exact .inl (every character (List.mem_of_mem_take front))
      · rcases List.mem_cons.mp back with rfl | digit
        · exact point
        · exact .inl (every character (List.mem_of_mem_drop digit))

/-- A decimal with an exponent is written with the characters of numerals. -/
theorem isNumeral_of_mem_exponential {digits : List Char} {leading : Int}
    (every : ∀ digit ∈ digits, digit.isDigit = true) {character : Char}
    (member : character ∈ exponential digits leading) : IsNumeral character := by
  have exponent : character ∈ 'e' :: (if leading < 0 then '-' else '+') ::
      Numeral.digits leading.natAbs → IsNumeral character := by
    intro inside
    rcases List.mem_cons.mp inside with rfl | inside
    · exact .inr (by simp)
    · rcases List.mem_cons.mp inside with rfl | digit
      · right
        split <;> simp
      · exact .inl (Numeral.isDigit_of_mem_digits digit)
  unfold exponential at member
  dsimp only at member
  split at member
  · rename_i first second rest
    rcases List.mem_append.mp member with front | back
    · rcases List.mem_cons.mp front with rfl | front
      · exact .inl (every _ List.mem_cons_self)
      · rcases List.mem_cons.mp front with rfl | digit
        · exact .inr (by simp)
        · exact .inl (every character (List.mem_cons_of_mem _ digit))
    · exact exponent back
  · rcases List.mem_append.mp member with front | back
    · exact .inl (every character front)
    · exact exponent back

end Decimal

/-- A double is written with the characters of numerals. -/
theorem Double.isNumeral_of_mem_text {double : Double} {character : Char}
    (member : character ∈ double.text) : IsNumeral character := by
  have magnitude : character ∈ (Decimal.shortest double.magnitude).text →
      IsNumeral character := by
    intro inside
    unfold Decimal.text at inside
    dsimp only at inside
    split at inside
    · exact Decimal.isNumeral_of_mem_positional
        (fun _ => Decimal.isDigit_of_mem_significantDigits) inside
    · exact Decimal.isNumeral_of_mem_exponential
        (fun _ => Decimal.isDigit_of_mem_significantDigits) inside
  unfold text at member
  dsimp only at member
  split at member
  · rcases List.mem_cons.mp member with rfl | inside
    · exact .inr List.mem_cons_self
    · exact magnitude inside
  · exact magnitude member

end CatalogSearch
