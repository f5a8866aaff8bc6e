import CatalogSearch.Json.Quoted
import CatalogSearch.Text.Visible

/-!
# Texts in messages

A message shows a text between double quotes, with every character that would be hard to see written
as an escape.
-/

namespace CatalogSearch

namespace Text

/-- The hexadecimal digits of a number, most significant first and without leading zeros. -/
def hexDigits (number : Nat) : List Char :=
  if number < 16 then [Quoted.hexDigit number]
  else hexDigits (number / 16) ++ [Quoted.hexDigit (number % 16)]
termination_by number
decreasing_by omega

/-- A character as it is shown in a message. -/
def shownCharacter (character : Char) : List Char :=
  if character = '"' ∨ character = '\\' then ['\\', character]
  else if character = '\t' then ['\\', 't']
  else if character = '\r' then ['\\', 'r']
  else if character = '\n' then ['\\', 'n']
  else if character.toNat = 0 then ['\\', '0']
  else if isVisible character then [character]
  else ['\\', 'u', '\x7b'] ++ hexDigits character.toNat ++ ['\x7d']

/-- A text as a message shows it. -/
def shown (text : String) : String :=
  String.ofList ('"' :: text.toList.flatMap shownCharacter ++ ['"'])

end Text

end CatalogSearch
