import CatalogSearch.Number

/-!
# JSON values

A value keeps the members of an object in the order of its text, with every repetition of a key.
-/

namespace CatalogSearch

/-- A JSON value as it is written. -/
inductive Json where
  | null
  | bool (flag : Bool)
  | number (value : Number)
  | string (text : String)
  | array (items : List Json)
  | object (members : List (String × Json))

namespace Json

/-- An array of strings. -/
def ofStrings (texts : List String) : Json :=
  .array (texts.map .string)

/-- The text of a value that is a string. -/
def asString? : Json → Option String
  | .string text => some text
  | _ => none

/-- The number of a value that is one. -/
def asNumber? : Json → Option Number
  | .number value => some value
  | _ => none

end Json

end CatalogSearch
