import CatalogSearch.Json.Canonical

/-!
# Documents

A document is a canonical object whose fields are read by name. A field is compared with a condition
through a list of texts.
-/

namespace CatalogSearch

/-- A result document: a canonical object. -/
structure Document where
  members : List (String × Json)
  canonical : (Json.object members).IsCanonical

namespace Document

/-- The document with the given members. -/
def ofMembers (members : List (String × Json)) : Document :=
  ⟨KeyOrder.sort (Json.canonicalMembers members), Json.isCanonical_canonical (.object members)⟩

/-- A document is written as the object that it is. -/
def toJson (document : Document) : Json :=
  .object document.members

/-- The value of a field, if the document has the field. -/
def get? (document : Document) (field : String) : Option Json :=
  document.members.lookup field

/-- The value of a field that is present and not null. -/
def value? (document : Document) (field : String) : Option Json :=
  match document.get? field with
  | some .null => none
  | other => other

end Document

namespace Json

/-- The text by which a single value is compared: that of a string itself, and otherwise the compact
text. Null has none. -/
def comparand? : Json → Option String
  | .null => none
  | .string text => some text
  | other => some other.compact

/-- The texts by which a field is compared: those of the items of an array, or that of any other
value. -/
def comparands : Json → List String
  | .array items => items.filterMap comparand?
  | other => other.comparand?.toList

end Json

end CatalogSearch
