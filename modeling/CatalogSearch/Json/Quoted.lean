/-!
# Quoted strings

A string is written between double quotes. The quote, the backslash and the control characters are
escaped; every other character stands for itself. Reading also accepts an escaped solidus and any
character written as one or two code units of sixteen bits.
-/

namespace CatalogSearch

namespace Quoted

/-- The letter that follows the backslash in the short escape of a character. -/
def escapeLetter? : Char → Option Char
  | '"' => some '"'
  | '\\' => some '\\'
  | '\x08' => some 'b'
  | '\x0c' => some 'f'
  | '\n' => some 'n'
  | '\r' => some 'r'
  | '\t' => some 't'
  | _ => none

/-- The character that a letter behind a backslash stands for. -/
def unescapeLetter? : Char → Option Char
  | '"' => some '"'
  | '\\' => some '\\'
  | '/' => some '/'
  | 'b' => some '\x08'
  | 'f' => some '\x0c'
  | 'n' => some '\n'
  | 'r' => some '\r'
  | 't' => some '\t'
  | _ => none

/-- A hexadecimal digit, as a lower-case letter from ten on. -/
def hexDigit (value : Nat) : Char :=
  if value < 10 then Char.ofNat (48 + value) else Char.ofNat (87 + value)

/-- The value of a hexadecimal digit of either case. -/
def hexValue? (character : Char) : Option Nat :=
  let code := character.toNat
  if 48 ≤ code ∧ code ≤ 57 then some (code - 48)
  else if 65 ≤ code ∧ code ≤ 70 then some (code - 55)
  else if 97 ≤ code ∧ code ≤ 102 then some (code - 87)
  else none

/-- A character as it is written between quotes. -/
def escape (character : Char) : List Char :=
  match escapeLetter? character with
  | some letter => ['\\', letter]
  | none =>
      if character.toNat < 0x20 then
        ['\\', 'u', '0', '0', hexDigit (character.toNat / 16), hexDigit (character.toNat % 16)]
      else
        [character]

/-- A text between quotes. -/
def quote (text : List Char) : List Char :=
  '"' :: text.flatMap escape ++ ['"']

/-- A part of a quoted string: a character or a code unit of sixteen bits. -/
inductive Piece where
  | plain (character : Char)
  | unit (value : Nat)

/-- The code unit with four hexadecimal digits. -/
def unit? (first second third fourth : Char) : Option Nat := do
  some (((← hexValue? first) * 16 + (← hexValue? second)) * 256 +
    ((← hexValue? third) * 16 + (← hexValue? fourth)))

/-- Reads the pieces up to the closing quote and returns the text behind it. -/
def pieces? : List Char → Option (List Piece × List Char)
  | [] => none
  | '"' :: rest => some ([], rest)
  | '\\' :: 'u' :: first :: second :: third :: fourth :: rest => do
      let value ← unit? first second third fourth
      let (pieces, after) ← pieces? rest
      some (.unit value :: pieces, after)
  | '\\' :: letter :: rest => do
      let character ← unescapeLetter? letter
      let (pieces, after) ← pieces? rest
      some (.plain character :: pieces, after)
  | character :: rest =>
      if character = '\\' ∨ character.toNat < 0x20 then none
      else do
        let (pieces, after) ← pieces? rest
        some (.plain character :: pieces, after)

/-- Whether a code unit is the first of a pair. -/
def isHighSurrogate (value : Nat) : Bool :=
  0xD800 ≤ value && value < 0xDC00

/-- Whether a code unit is the second of a pair. -/
def isLowSurrogate (value : Nat) : Bool :=
  0xDC00 ≤ value && value < 0xE000

/-- The characters of the pieces. A code unit of a pair must not stand alone. -/
def join? : List Piece → Option (List Char)
  | [] => some []
  | .plain character :: rest => do
      some (character :: (← join? rest))
  | .unit value :: rest =>
      if isHighSurrogate value then
        match rest with
        | .unit low :: after =>
            if isLowSurrogate low then do
              let code := 0x10000 + (value - 0xD800) * 0x400 + (low - 0xDC00)
              some (Char.ofNat code :: (← join? after))
            else
              none
        | _ => none
      else if isLowSurrogate value then
        none
      else do
        some (Char.ofNat value :: (← join? rest))

/-- Reads a string whose opening quote has been taken, and returns the text behind it. -/
def unquote? (characters : List Char) : Option (List Char × List Char) := do
  let (pieces, after) ← pieces? characters
  some (← join? pieces, after)

/-- The text behind a quoted string is shorter than the whole. -/
theorem length_lt_of_pieces? {characters after : List Char} {pieces : List Piece}
    (read : pieces? characters = some (pieces, after)) : after.length < characters.length := by
  fun_induction pieces? characters generalizing pieces after with
  | case1 => simp at read
  | case2 rest =>
      obtain ⟨-, rfl⟩ := by simpa using read
      simp
  | case3 first second third fourth rest ih =>
      simp only [Option.bind_eq_bind, Option.bind_eq_some_iff, Option.some.injEq,
        Prod.mk.injEq] at read
      obtain ⟨_, _, ⟨_, _⟩, inner, _, rfl⟩ := read
      have := ih inner
      simp only [List.length_cons]
      omega
  | case4 letter rest _ ih =>
      simp only [Option.bind_eq_bind, Option.bind_eq_some_iff, Option.some.injEq,
        Prod.mk.injEq] at read
      obtain ⟨_, _, ⟨_, _⟩, inner, _, rfl⟩ := read
      have := ih inner
      simp only [List.length_cons]
      omega
  | case5 => simp at read
  | case6 character rest _ _ _ _ ih =>
      simp only [Option.bind_eq_bind, Option.bind_eq_some_iff, Option.some.injEq,
        Prod.mk.injEq] at read
      obtain ⟨⟨_, _⟩, inner, _, rfl⟩ := read
      have := ih inner
      simp only [List.length_cons]
      omega

/-- Reading a string takes at least one character. -/
theorem length_lt_of_unquote? {characters text after : List Char}
    (read : unquote? characters = some (text, after)) : after.length < characters.length := by
  simp only [unquote?, Option.bind_eq_bind, Option.bind_eq_some_iff, Option.some.injEq,
    Prod.mk.injEq] at read
  obtain ⟨⟨_, _⟩, inner, _, _, _, rfl⟩ := read
  exact length_lt_of_pieces? inner

end Quoted

end CatalogSearch
