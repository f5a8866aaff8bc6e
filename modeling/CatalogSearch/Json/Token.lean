import CatalogSearch.Json.Quoted
import CatalogSearch.Number.Literal

/-!
# Tokens

A token is a bracket, a mark of punctuation, or a scalar value. It is read as far as it reaches.
-/

namespace CatalogSearch

/-- A token of a JSON text. -/
inductive Token where
  | openArray
  | closeArray
  | openObject
  | closeObject
  | comma
  | colon
  | null
  | bool (flag : Bool)
  | string (text : String)
  | number (value : Number)

namespace Token

/-- The characters of a token. -/
def characters : Token → List Char
  | .openArray => ['[']
  | .closeArray => [']']
  | .openObject => ['\x7b']
  | .closeObject => ['\x7d']
  | .comma => [',']
  | .colon => [':']
  | .null => ['n', 'u', 'l', 'l']
  | .bool true => ['t', 'r', 'u', 'e']
  | .bool false => ['f', 'a', 'l', 's', 'e']
  | .string text => Quoted.quote text.toList
  | .number value => value.characters

/-- Whether a character may stand between tokens. -/
def isBlank (character : Char) : Bool :=
  character == ' ' || character == '\n' || character == '\t' || character == '\r'

/-- Whether a character may belong to a number or to what is mistaken for one. -/
def isLiteralCharacter (character : Char) : Bool :=
  character.isDigit || character == '-' || character == '+' || character == '.' ||
    character == 'e' || character == 'E'

/-- Reads the token that a text begins with, and returns the text behind it. -/
def next? : List Char → Option (Token × List Char)
  | '[' :: rest => some (.openArray, rest)
  | ']' :: rest => some (.closeArray, rest)
  | '\x7b' :: rest => some (.openObject, rest)
  | '\x7d' :: rest => some (.closeObject, rest)
  | ',' :: rest => some (.comma, rest)
  | ':' :: rest => some (.colon, rest)
  | 'n' :: 'u' :: 'l' :: 'l' :: rest => some (.null, rest)
  | 't' :: 'r' :: 'u' :: 'e' :: rest => some (.bool true, rest)
  | 'f' :: 'a' :: 'l' :: 's' :: 'e' :: rest => some (.bool false, rest)
  | '"' :: rest =>
      (Quoted.unquote? rest).map fun (text, after) => (.string (String.ofList text), after)
  | first :: rest =>
      if first = '-' ∨ first.isDigit then
        (Number.ofLiteral? (first :: rest.takeWhile isLiteralCharacter)).map fun value =>
          (.number value, rest.dropWhile isLiteralCharacter)
      else
        none
  | [] => none

/-- Reading a token takes at least one character. -/
theorem length_lt_of_next? {characters after : List Char} {token : Token}
    (read : next? characters = some (token, after)) : after.length < characters.length := by
  unfold next? at read
  split at read
  case h_10 =>
    obtain ⟨⟨text, rest⟩, unquoted, same⟩ := Option.map_eq_some_iff.mp read
    have := Quoted.length_lt_of_unquote? unquoted
    simp only [Prod.mk.injEq] at same
    rw [← same.2, List.length_cons]
    omega
  case h_11 rest _ _ _ _ _ _ _ _ _ _ =>
    split at read
    · obtain ⟨value, _, same⟩ := Option.map_eq_some_iff.mp read
      simp only [Prod.mk.injEq] at same
      have := (List.dropWhile_suffix isLiteralCharacter (l := rest)).length_le
      rw [← same.2, List.length_cons]
      omega
    · simp at read
  all_goals
    simp only [Option.some.injEq, Prod.mk.injEq, reduceCtorEq] at read
    try
      rw [← read.2]
      simp only [List.length_cons]
      omega

end Token

end CatalogSearch
