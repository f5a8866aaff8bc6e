/-!
# Kinds of fields

The name of a field decides how its condition is expanded and explained.
-/

namespace CatalogSearch

/-- How the condition of a field is treated. -/
inductive FieldKind where
  | date
  | passThrough
  | matching
deriving DecidableEq

namespace FieldKind

/-- The fields whose conditions are dates. -/
def dateFields : List String :=
  ["created", "modified", "lastlogin", "startDate", "endDate"]

/-- The fields whose conditions are used as they are. -/
def passThroughFields : List String :=
  ["term", "bbox", "name", "searchUserAccess", "searchUserName", "categoryFilter", "isopendata",
    "isviewonly", "isInvitation", "fields", "flatten"]

/-- The kind of the field with the given name. Every other field is matched. -/
def ofName (field : String) : FieldKind :=
  if dateFields.contains field then .date
  else if passThroughFields.contains field then .passThrough
  else .matching

end FieldKind

end CatalogSearch
