import CatalogSearch.Json
import CatalogSearch.Json.Token

/-!
# Writing JSON

The compact text of a value is that of its tokens, one after the other. The indented text puts every
item and every member on a line of its own.
-/

namespace CatalogSearch

namespace Json

mutual

/-- The tokens of a value. -/
def tokens : Json → List Token
  | .null => [.null]
  | .bool flag => [.bool flag]
  | .number value => [.number value]
  | .string text => [.string text]
  | .array items => .openArray :: itemTokens items ++ [.closeArray]
  | .object members => .openObject :: memberTokens members ++ [.closeObject]

/-- The tokens of the items of an array, with commas between them. -/
def itemTokens : List Json → List Token
  | [] => []
  | [item] => item.tokens
  | item :: rest => item.tokens ++ .comma :: itemTokens rest

/-- The tokens of the members of an object, with commas between them. -/
def memberTokens : List (String × Json) → List Token
  | [] => []
  | [(key, value)] => .string key :: .colon :: value.tokens
  | (key, value) :: rest => .string key :: .colon :: value.tokens ++ .comma :: memberTokens rest

end

/-- The compact text of a value. -/
def characters (json : Json) : List Char :=
  json.tokens.flatMap Token.characters

/-- The compact text of a value, as a string. -/
def compact (json : Json) : String :=
  String.ofList json.characters

/-- A line break followed by two blanks for every level. -/
def lineBreak (level : Nat) : List Char :=
  '\n' :: List.replicate (2 * level) ' '

mutual

/-- The indented text of a value that stands on the given level. -/
def indentedAt (level : Nat) : Json → List Char
  | .array [] => ['[', ']']
  | .array items => '[' :: indentedItems (level + 1) items ++ lineBreak level ++ [']']
  | .object [] => ['\x7b', '\x7d']
  | .object members =>
      '\x7b' :: indentedMembers (level + 1) members ++ lineBreak level ++ ['\x7d']
  | .null => Token.null.characters
  | .bool flag => (Token.bool flag).characters
  | .number value => (Token.number value).characters
  | .string text => (Token.string text).characters

/-- The indented text of the items of an array, each on a line of the given level. -/
def indentedItems (level : Nat) : List Json → List Char
  | [] => []
  | [item] => lineBreak level ++ item.indentedAt level
  | item :: rest => lineBreak level ++ item.indentedAt level ++ ',' :: indentedItems level rest

/-- The indented text of the members of an object, each on a line of the given level. -/
def indentedMembers (level : Nat) : List (String × Json) → List Char
  | [] => []
  | [(key, value)] =>
      lineBreak level ++ (Token.string key).characters ++ ':' :: ' ' :: value.indentedAt level
  | (key, value) :: rest =>
      lineBreak level ++ (Token.string key).characters ++ ':' :: ' ' :: value.indentedAt level ++
        ',' :: indentedMembers level rest

end

/-- The indented text of a value, as a string. -/
def indented (json : Json) : String :=
  String.ofList (json.indentedAt 0)

end Json

end CatalogSearch
