import CatalogSearch.Json.Token

/-!
# Lexemes

A JSON text is a sequence of lexemes with blanks between them. Most lexemes are tokens. The others
have the form of a string or of a number and denote none: a string in which half of a pair of code
units stands alone, and a number that is too large for a double.
-/

namespace CatalogSearch

/-- A token, or a string or a number without a value. -/
inductive Lexeme where
  | token (token : Token)
  | brokenString
  | hugeNumber

namespace Lexeme

/-- Whether a lexeme is a token. -/
def isToken : Lexeme → Bool
  | .token _ => true
  | _ => false

/-- Reads a string or a number for its form alone, and returns the text behind it. -/
def form? : List Char → Option (Lexeme × List Char)
  | '"' :: rest => (Quoted.pieces? rest).map fun (_, after) => (.brokenString, after)
  | first :: rest =>
      (Literal.parts? (first :: rest.takeWhile Token.isLiteralCharacter)).map fun _ =>
        (.hugeNumber, rest.dropWhile Token.isLiteralCharacter)
  | [] => none

/-- Reads the lexeme that a text begins with, and returns the text behind it. -/
def next? (characters : List Char) : Option (Lexeme × List Char) :=
  match Token.next? characters with
  | some (known, after) => some (.token known, after)
  | none => form? characters

/-- Reading a form takes at least one character. -/
theorem length_lt_of_form? {characters after : List Char} {lexeme : Lexeme}
    (read : form? characters = some (lexeme, after)) : after.length < characters.length := by
  unfold form? at read
  split at read
  · obtain ⟨⟨pieces, rest⟩, unquoted, same⟩ := Option.map_eq_some_iff.mp read
    have := Quoted.length_lt_of_pieces? unquoted
    simp only [Prod.mk.injEq] at same
    rw [← same.2, List.length_cons]
    omega
  · obtain ⟨_, _, same⟩ := Option.map_eq_some_iff.mp read
    simp only [Prod.mk.injEq] at same
    rw [← same.2, List.length_cons]
    exact Nat.lt_succ_of_le (List.dropWhile_suffix Token.isLiteralCharacter).length_le
  · simp at read

/-- Reading a lexeme takes at least one character. -/
theorem length_lt_of_next? {characters after : List Char} {lexeme : Lexeme}
    (read : next? characters = some (lexeme, after)) : after.length < characters.length := by
  unfold next? at read
  split at read
  next found =>
    simp only [Option.some.injEq, Prod.mk.injEq] at read
    rw [← read.2]
    exact Token.length_lt_of_next? found
  · exact length_lt_of_form? read

/-- Reads a whole text as lexemes, with blanks between them. -/
def all? (characters : List Char) : Option (List Lexeme) :=
  match characters with
  | [] => some []
  | first :: rest =>
      if Token.isBlank first then
        all? rest
      else
        match _read : next? (first :: rest) with
        | none => none
        | some (lexeme, after) => (all? after).map (lexeme :: ·)
termination_by characters.length
decreasing_by
  · simp
  · exact length_lt_of_next? (by assumption)

end Lexeme

end CatalogSearch
