import CatalogSearch.Json.Quoted
import Mathlib.Tactic.IntervalCases

/-!
# The grammar of quoted strings

How the pieces of a string are written between the quotes (`Quoted.Spells`): a character by itself,
after a backslash by the letter of its short escape, or a code unit by four hexadecimal digits. A
text is read up to the quote behind exactly the pieces that it spells
(`Quoted.pieces?_eq_some_iff`), and the quoted text of a string spells the string.
-/

namespace CatalogSearch

namespace Quoted

/-- How a piece of a string is written. -/
inductive SpellsPiece : Piece → List Char → Prop where
  | visible {character : Char} (visible : 0x20 ≤ character.toNat) (unquoted : character ≠ '"')
      (unescaped : character ≠ '\\') : SpellsPiece (.plain character) [character]
  | short {letter character : Char} (known : unescapeLetter? letter = some character) :
      SpellsPiece (.plain character) ['\\', letter]
  | unit {first second third fourth : Char} {value : Nat}
      (known : unit? first second third fourth = some value) :
      SpellsPiece (.unit value) ['\\', 'u', first, second, third, fourth]

/-- How the pieces of a string are written, one after the other. -/
inductive Spells : List Piece → List Char → Prop where
  | nil : Spells [] []
  | cons {piece : Piece} {pieces : List Piece} {front back : List Char}
      (first : SpellsPiece piece front) (rest : Spells pieces back) :
      Spells (piece :: pieces) (front ++ back)

/-- A piece is read from the characters that it is written as. -/
theorem SpellsPiece.pieces?_append {piece : Piece} {front : List Char}
    (spelled : SpellsPiece piece front) (rest : List Char) :
    pieces? (front ++ rest) =
      (pieces? rest).map fun (pieces, after) => (piece :: pieces, after) := by
  cases spelled with
  | visible visible unquoted unescaped =>
      rename_i character
      refine (pieces?.eq_5 character rest (fun same => unquoted same)
        (fun _ _ _ _ _ same => absurd same unescaped)
        fun _ _ same => absurd same unescaped).trans ?_
      rw [if_neg (not_or.mpr ⟨unescaped, by omega⟩)]
      cases pieces? rest <;> rfl
  | short known =>
      rename_i letter character
      have other : letter ≠ 'u' := by
        rintro rfl
        cases known
      refine (pieces?.eq_4 letter rest fun _ _ _ _ _ same => absurd same other).trans ?_
      rw [known]
      cases pieces? rest <;> rfl
  | unit known =>
      refine (pieces?.eq_3 _ _ _ _ rest).trans ?_
      rw [known]
      cases pieces? rest <;> rfl

/-- A text is read up to the first quote that is no part of a piece. -/
theorem pieces?_eq_some_iff {text after : List Char} {pieces : List Piece} :
    pieces? text = some (pieces, after) ↔
      ∃ front, text = front ++ '"' :: after ∧ Spells pieces front := by
  constructor
  · intro read
    fun_induction pieces? text generalizing pieces after with
    | case1 => cases read
    | case2 rest =>
        cases read
        exact ⟨[], rfl, .nil⟩
    | case3 first second third fourth rest ih =>
        simp only [Option.bind_eq_bind, Option.bind_eq_some_iff, Option.some.injEq,
          Prod.mk.injEq] at read
        obtain ⟨value, known, ⟨others, _⟩, inner, rfl, rfl⟩ := read
        obtain ⟨front, rfl, spelled⟩ := ih inner
        exact ⟨_, rfl, .cons (.unit known) spelled⟩
    | case4 letter rest _ ih =>
        simp only [Option.bind_eq_bind, Option.bind_eq_some_iff, Option.some.injEq,
          Prod.mk.injEq] at read
        obtain ⟨character, known, ⟨others, _⟩, inner, rfl, rfl⟩ := read
        obtain ⟨front, rfl, spelled⟩ := ih inner
        exact ⟨_, rfl, .cons (.short known) spelled⟩
    | case5 => cases read
    | case6 character rest unquoted _ _ plain ih =>
        simp only [Option.bind_eq_bind, Option.bind_eq_some_iff, Option.some.injEq,
          Prod.mk.injEq] at read
        obtain ⟨⟨others, _⟩, inner, rfl, rfl⟩ := read
        obtain ⟨front, rfl, spelled⟩ := ih inner
        obtain ⟨unescaped, visible⟩ := not_or.mp plain
        exact ⟨_, rfl, .cons (.visible (by omega) unquoted unescaped) spelled⟩
  · rintro ⟨front, rfl, spelled⟩
    induction spelled with
    | nil => rfl
    | cons first _ ih => rw [List.append_assoc, first.pieces?_append, ih, Option.map_some]

/-- A hexadecimal digit has the value it is written for. -/
theorem hexValue?_hexDigit {value : Nat} (small : value < 16) :
    hexValue? (hexDigit value) = some value := by
  interval_cases value <;> rfl

/-- The letter of a short escape stands for its character. -/
theorem unescapeLetter?_of_escapeLetter? {character letter : Char}
    (short : escapeLetter? character = some letter) : unescapeLetter? letter = some character := by
  unfold escapeLetter? at short
  split at short <;> cases short <;> rfl

/-- The piece as which a character is written. -/
def pieceOf (character : Char) : Piece :=
  if (escapeLetter? character).isNone && decide (character.toNat < 0x20) then
    .unit character.toNat
  else
    .plain character

/-- An escaped character is written as its piece. -/
theorem spellsPiece_escape (character : Char) :
    SpellsPiece (pieceOf character) (escape character) := by
  cases short : escapeLetter? character with
  | some letter =>
      rw [escape, pieceOf, short]
      exact .short (unescapeLetter?_of_escapeLetter? short)
  | none =>
      rw [escape, pieceOf, short]
      by_cases control : character.toNat < 0x20
      · simp only [control, ↓reduceIte, Option.isNone_none, decide_true, Bool.and_self]
        refine .unit ?_
        have zero : hexValue? '0' = some 0 := rfl
        simp only [unit?, zero, hexValue?_hexDigit (show character.toNat / 16 < 16 by omega),
          hexValue?_hexDigit (Nat.mod_lt _ (by omega)), Option.bind_eq_bind, Option.bind_some,
          Option.some.injEq]
        omega
      · simp only [control, ↓reduceIte, decide_false, Bool.and_false, Bool.false_eq_true]
        refine .visible (by omega) ?_ ?_
        · rintro rfl
          cases short
        · rintro rfl
          cases short

/-- The escaped characters of a text are written as their pieces. -/
theorem spells_escape (text : List Char) : Spells (text.map pieceOf) (text.flatMap escape) := by
  induction text with
  | nil => exact .nil
  | cons first others ih => exact .cons (spellsPiece_escape first) ih

/-- No code unit of a written text is half of a pair, so the pieces join to the text. -/
theorem join?_pieces (text : List Char) : join? (text.map pieceOf) = some text := by
  induction text with
  | nil => rfl
  | cons first others ih =>
      rw [List.map_cons, pieceOf]
      split
      · rename_i control
        have small : first.toNat < 0x20 := of_decide_eq_true (Bool.and_eq_true_iff.mp control).2
        have high : isHighSurrogate first.toNat = false := by
          simp only [isHighSurrogate, Bool.and_eq_false_iff, decide_eq_false_iff_not]
          omega
        have low : isLowSurrogate first.toNat = false := by
          simp only [isLowSurrogate, Bool.and_eq_false_iff, decide_eq_false_iff_not]
          omega
        unfold join?
        simp only [high, low, ih, Char.ofNat_toNat, Bool.false_eq_true, ↓reduceIte,
          Option.bind_eq_bind, Option.bind_some]
      · rw [join?, ih]
        rfl

/-- A text is unquoted exactly as what the pieces that it spells join to. -/
theorem unquote?_eq_some_iff {text characters after : List Char} :
    unquote? text = some (characters, after) ↔
      ∃ front pieces, text = front ++ '"' :: after ∧ Spells pieces front ∧
        join? pieces = some characters := by
  simp only [unquote?, Option.bind_eq_bind, Option.bind_eq_some_iff, Option.some.injEq,
    Prod.mk.injEq]
  constructor
  · rintro ⟨⟨pieces, _⟩, read, joined, known, rfl, rfl⟩
    obtain ⟨front, split, spelled⟩ := pieces?_eq_some_iff.mp read
    exact ⟨front, pieces, split, spelled, known⟩
  · rintro ⟨front, pieces, split, spelled, known⟩
    exact ⟨(pieces, after), pieces?_eq_some_iff.mpr ⟨front, split, spelled⟩, characters, known,
      rfl, rfl⟩

end Quoted

end CatalogSearch
