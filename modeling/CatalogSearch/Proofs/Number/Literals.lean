import CatalogSearch.Number.Literal
import CatalogSearch.Proofs.Syntax.Delimited
import Mathlib.Tactic.IntervalCases

/-!
# The grammar of number literals

How the parts of a literal are written (`Literal.Spells`): a minus sign where it is negative, an
integer part without superfluous zeros, a fraction and an exponent where there are any. A text is
split into parts exactly if it is written so (`Literal.parts?_eq_some_iff`).
-/

namespace CatalogSearch

namespace Literal

/-- Whether characters are digits, at least one of them. -/
structure IsDigits (digits : List Char) : Prop where
  content : digits ≠ []
  decimal : ∀ character ∈ digits, character.isDigit = true

/-- Whether digits are an integer part: a zero alone, or a run that begins with another digit. -/
inductive IsWhole : List Char → Prop where
  | zero : IsWhole ['0']
  | digits {first : Char} {rest : List Char} (leading : first ≠ '0')
      (decimal : IsDigits (first :: rest)) : IsWhole (first :: rest)

/-- How the digits of a fraction are written. -/
inductive SpellsFraction : List Char → List Char → Prop where
  | absent : SpellsFraction [] []
  | present {digits : List Char} (decimal : IsDigits digits) :
      SpellsFraction digits ('.' :: digits)

/-- How an exponent is written. -/
inductive SpellsExponent : Option Int → List Char → Prop where
  | absent : SpellsExponent none []
  | unsigned {mark : Char} {digits : List Char} (marked : mark = 'e' ∨ mark = 'E')
      (decimal : IsDigits digits) :
      SpellsExponent (some (Numeral.value digits : Int)) (mark :: digits)
  | positive {mark : Char} {digits : List Char} (marked : mark = 'e' ∨ mark = 'E')
      (decimal : IsDigits digits) :
      SpellsExponent (some (Numeral.value digits : Int)) (mark :: '+' :: digits)
  | negative {mark : Char} {digits : List Char} (marked : mark = 'e' ∨ mark = 'E')
      (decimal : IsDigits digits) :
      SpellsExponent (some (-(Numeral.value digits : Int))) (mark :: '-' :: digits)

/-- How the parts of a literal are written without a sign. -/
inductive SpellsUnsigned (negative : Bool) : Parts → List Char → Prop where
  | parts {whole fraction front back : List Char} {exponent : Option Int} (integer : IsWhole whole)
      (behind : SpellsFraction fraction front) (scaled : SpellsExponent exponent back) :
      SpellsUnsigned negative ⟨negative, whole, fraction, exponent⟩ (whole ++ front ++ back)

/-- How the parts of a literal are written. -/
inductive Spells : Parts → List Char → Prop where
  | natural {parts : Parts} {text : List Char} (unsigned : SpellsUnsigned false parts text) :
      Spells parts text
  | negative {parts : Parts} {text : List Char} (unsigned : SpellsUnsigned true parts text) :
      Spells parts ('-' :: text)

/-- Digits end in front of a text that does not begin with one. -/
theorem spanDigits_append {digits rest : List Char}
    (decimal : ∀ character ∈ digits, character.isDigit = true)
    (stops : Grammar.Stops Char.isDigit rest) : spanDigits (digits ++ rest) = (digits, rest) := by
  obtain ⟨taken, left⟩ := Grammar.span_append decimal stops
  rw [spanDigits, taken, left]

theorem isDigit_of_mem_takeWhile {text : List Char} :
    ∀ character ∈ text.takeWhile Char.isDigit, character.isDigit = true :=
  fun _ => List.mem_takeWhile_imp

/-- An integer part is made of digits. -/
theorem IsWhole.decimal {whole : List Char} (integer : IsWhole whole) :
    ∀ character ∈ whole, character.isDigit = true := by
  cases integer with
  | zero => simp
  | digits leading decimal => exact decimal.decimal

/-- Digits are an integer part if there is one and no other follows a leading zero. -/
theorem isIntegerPart_iff {digits : List Char}
    (decimal : ∀ character ∈ digits, character.isDigit = true) :
    isIntegerPart digits = true ↔ IsWhole digits := by
  constructor
  · intro integer
    cases digits with
    | nil => cases integer
    | cons first rest =>
        by_cases leading : first = '0'
        · subst leading
          cases rest with
          | nil => exact .zero
          | cons second others => simp [isIntegerPart] at integer
        · exact .digits leading ⟨List.cons_ne_nil first rest, decimal⟩
  · rintro (_ | ⟨leading, -⟩)
    · rfl
    · rename_i first rest
      rw [isIntegerPart.eq_3 first rest fun same _ => leading same]
      exact bne_iff_ne.mpr leading

section Exponent

variable {digits : List Char}

/-- An exponent is read from digits exactly, at least one of them. -/
theorem exponentDigits?_eq_some_iff {value : Nat} :
    exponentDigits? digits = some value ↔ IsDigits digits ∧ Numeral.value digits = value := by
  unfold exponentDigits?
  split
  · rename_i decimal
    simp only [Bool.and_eq_true, Bool.not_eq_true', List.isEmpty_eq_false_iff,
      List.all_eq_true] at decimal
    simp [show IsDigits digits from ⟨decimal.1, decimal.2⟩]
  · rename_i other
    simp only [Bool.and_eq_true, Bool.not_eq_true', List.isEmpty_eq_false_iff,
      List.all_eq_true] at other
    exact ⟨nofun, fun decimal => absurd ⟨decimal.1.content, decimal.1.decimal⟩ other⟩

theorem exponentDigits?_of_isDigits (decimal : IsDigits digits) :
    exponentDigits? digits = some (Numeral.value digits) :=
  exponentDigits?_eq_some_iff.mpr ⟨decimal, rfl⟩

/-- The exponent of a literal is read exactly if it is written. -/
theorem exponent?_eq_some_iff {text : List Char} {exponent : Option Int} :
    exponent? text = some exponent ↔ SpellsExponent exponent text := by
  constructor
  · intro read
    unfold exponent? at read
    split at read
    · cases read
      exact .absent
    · rename_i mark rest
      split at read
      · rename_i marked
        split at read <;> obtain ⟨value, known, same⟩ := Option.map_eq_some_iff.mp read <;>
          obtain ⟨decimal, rfl⟩ := exponentDigits?_eq_some_iff.mp known <;> cases same
        · exact .negative marked decimal
        · exact .positive marked decimal
        · exact .unsigned marked decimal
      · cases read
  · rintro (_ | ⟨marked, decimal⟩ | ⟨marked, decimal⟩ | ⟨marked, decimal⟩)
    · rfl
    · rename_i mark digits
      have digit : ∀ sign rest, digits = sign :: rest → sign.isDigit = true :=
        fun sign rest same => decimal.decimal sign (same ▸ List.mem_cons_self)
      unfold exponent?
      dsimp only
      rw [if_pos marked]
      split
      · rename_i rest
        exact absurd (digit '-' rest rfl) (by decide)
      · rename_i rest
        exact absurd (digit '+' rest rfl) (by decide)
      · rw [exponentDigits?_of_isDigits decimal, Option.map_some]
    · simp only [exponent?, if_pos marked, exponentDigits?_of_isDigits decimal, Option.map_some]
    · simp only [exponent?, if_pos marked, exponentDigits?_of_isDigits decimal, Option.map_some]

/-- An exponent does not continue the digits in front of it. -/
theorem SpellsExponent.stops {text : List Char} {exponent : Option Int}
    (scaled : SpellsExponent exponent text) : Grammar.Stops Char.isDigit text := by
  cases scaled with
  | absent => exact nofun
  | unsigned marked | positive marked | negative marked =>
      refine Grammar.stops_cons ?_
      rcases marked with rfl | rfl <;> rfl

end Exponent

section Fraction

variable {text fraction back : List Char}

/-- What is read as a fraction is written as one, in front of what is left. -/
theorem spells_of_fraction? (read : fraction? text = some (fraction, back)) :
    ∃ front, text = front ++ back ∧ SpellsFraction fraction front := by
  unfold fraction? at read
  split at read
  · rename_i rest
    dsimp only [spanDigits] at read
    split at read
    · cases read
    · rename_i content
      cases read
      refine ⟨'.' :: rest.takeWhile Char.isDigit, ?_, .present ⟨?_, isDigit_of_mem_takeWhile⟩⟩
      · rw [List.cons_append, List.takeWhile_append_dropWhile]
      · exact fun none => content (by rw [none]; rfl)
  · cases read
    exact ⟨[], rfl, .absent⟩

/-- A fraction is read back in front of an exponent. -/
theorem SpellsFraction.fraction?_append {front : List Char} {exponent : Option Int}
    (behind : SpellsFraction fraction front) (scaled : SpellsExponent exponent back) :
    fraction? (front ++ back) = some (fraction, back) := by
  cases behind with
  | absent =>
      have other : ∀ rest, back ≠ '.' :: rest := by
        rintro rest rfl
        cases scaled with
        | unsigned marked | positive marked | negative marked => exact absurd marked (by decide)
      exact fraction?.eq_2 back fun rest same => other rest same
  | present decimal =>
      rw [List.cons_append, fraction?]
      simp only [spanDigits_append decimal.decimal scaled.stops]
      rw [if_neg (by simpa using decimal.content)]

/-- Neither a fraction nor an exponent continues an integer part. -/
theorem SpellsFraction.stops_append {front : List Char} {exponent : Option Int}
    (behind : SpellsFraction fraction front) (scaled : SpellsExponent exponent back) :
    Grammar.Stops Char.isDigit (front ++ back) := by
  cases behind with
  | absent => exact scaled.stops
  | present decimal => exact Grammar.stops_cons rfl

end Fraction

/-- A literal without a sign is split into the parts that are written. -/
theorem unsignedParts?_eq_some_iff {negative : Bool} {text : List Char} {parts : Parts} :
    unsignedParts? negative text = some parts ↔ SpellsUnsigned negative parts text := by
  constructor
  · intro read
    simp only [unsignedParts?, spanDigits] at read
    by_cases integer : isIntegerPart (text.takeWhile Char.isDigit) = true
    · simp only [integer, Bool.not_true, Bool.false_eq_true, if_false, Option.bind_eq_bind,
        Option.bind_eq_some_iff, Option.some.injEq] at read
      obtain ⟨⟨fraction, back⟩, split, exponent, scaled, rfl⟩ := read
      obtain ⟨front, rest, behind⟩ := spells_of_fraction? split
      have spelled := @SpellsUnsigned.parts negative _ _ _ _ _
        ((isIntegerPart_iff isDigit_of_mem_takeWhile).mp integer) behind
        (exponent?_eq_some_iff.mp scaled)
      rwa [List.append_assoc, ← rest, List.takeWhile_append_dropWhile] at spelled
    · rw [Bool.not_eq_true] at integer
      simp [integer] at read
  · rintro ⟨integer, behind, scaled⟩
    rw [List.append_assoc, unsignedParts?,
      spanDigits_append integer.decimal (behind.stops_append scaled)]
    simp only [(isIntegerPart_iff integer.decimal).mpr integer, Bool.not_true,
      Bool.false_eq_true, if_false, behind.fraction?_append scaled,
      exponent?_eq_some_iff.mpr scaled, Option.bind_eq_bind, Option.bind_some]

/-- A literal without a sign begins with a digit. -/
theorem SpellsUnsigned.exists_cons {negative : Bool} {parts : Parts} {text : List Char}
    (spelled : SpellsUnsigned negative parts text) :
    ∃ first rest, text = first :: rest ∧ first.isDigit = true := by
  obtain ⟨integer, behind, scaled⟩ := spelled
  cases integer with
  | zero => exact ⟨_, _, rfl, rfl⟩
  | digits leading decimal => exact ⟨_, _, rfl, decimal.decimal _ List.mem_cons_self⟩

/-- A text is split into parts exactly if it is one way to write them. -/
theorem parts?_eq_some_iff {text : List Char} {parts : Parts} :
    parts? text = some parts ↔ Spells parts text := by
  constructor
  · intro read
    unfold parts? at read
    split at read
    · exact .negative (unsignedParts?_eq_some_iff.mp read)
    · exact .natural (unsignedParts?_eq_some_iff.mp read)
  · rintro (unsigned | unsigned)
    · obtain ⟨first, others, rfl, digit⟩ := unsigned.exists_cons
      have other : ∀ rest, first :: others ≠ '-' :: rest := by
        rintro rest same
        rw [(List.cons.inj same).1] at digit
        exact absurd digit (by decide)
      rw [parts?.eq_2 _ other]
      exact unsignedParts?_eq_some_iff.mpr unsigned
    · exact unsignedParts?_eq_some_iff.mpr unsigned

/-- The digits of a number form an integer part: none but zero begins with a zero. -/
theorem isWhole_digits (number : Nat) : IsWhole (Numeral.digits number) := by
  have decimal : IsDigits (Numeral.digits number) :=
    ⟨Numeral.digits_ne_nil number, fun _ => Numeral.isDigit_of_mem_digits⟩
  have leading : ∀ number, 0 < number → (Numeral.digits number).head? ≠ some '0' := by
    intro number positive
    fun_induction Numeral.digits number with
    | case1 number small => interval_cases number <;> decide
    | case2 number large ih =>
        obtain ⟨first, rest, split⟩ :=
          List.exists_cons_of_ne_nil (Numeral.digits_ne_nil (number / 10))
        rw [split] at ih ⊢
        exact ih (by omega)
  rcases Nat.eq_zero_or_pos number with rfl | positive
  · rw [Numeral.digits]
    exact .zero
  · obtain ⟨first, rest, split⟩ := List.exists_cons_of_ne_nil (Numeral.digits_ne_nil number)
    rw [split] at decimal ⊢
    refine .digits ?_ decimal
    rintro rfl
    exact leading number positive (by rw [split]; rfl)

/-- The decimal text of an integer is a literal without fraction and exponent. -/
theorem spells_ofInt (value : Int) :
    Spells ⟨decide (value < 0), Numeral.digits value.natAbs, [], none⟩ (Numeral.ofInt value) := by
  have unsigned (negative : Bool) :
      SpellsUnsigned negative ⟨negative, Numeral.digits value.natAbs, [], none⟩
        (Numeral.digits value.natAbs) := by
    have spelled := @SpellsUnsigned.parts negative _ _ _ _ _ (isWhole_digits value.natAbs)
      .absent .absent
    rwa [List.append_nil, List.append_nil] at spelled
  unfold Numeral.ofInt
  split
  · rename_i negative
    rw [decide_eq_true negative]
    exact .negative (unsigned true)
  · rename_i natural
    rw [decide_eq_false natural]
    exact .natural (unsigned false)

end Literal

/-- A text denotes the number of the parts that it spells. -/
theorem Number.ofLiteral?_eq_some_iff {text : List Char} {value : Number} :
    ofLiteral? text = some value ↔
      ∃ parts, Literal.Spells parts text ∧ parts.number? = some value := by
  simp only [ofLiteral?, Option.bind_eq_bind, Option.bind_eq_some_iff,
    Literal.parts?_eq_some_iff]

end CatalogSearch
