import CatalogSearch.Codec.Record
import CatalogSearch.Query.Error

/-!
# Group memberships

The groups with which an item is shared, by the role that the searcher has in them, and the
directory that is asked for them. A source of groups may answer every lookup from another directory.
-/

namespace CatalogSearch

/-- A group and its title. -/
structure GroupReference where
  id : String
  title : String
deriving DecidableEq

namespace GroupReference

/-- The written form of a group. -/
def toJson (group : GroupReference) : Json :=
  .object [("id", .string group.id), ("title", .string group.title)]

/-- Decodes a group. -/
def decode : Decoder GroupReference :=
  ((Record.done mk).andThen (Record.required "id" Decode.string)
    |>.andThen (Record.required "title" Decode.string)).decode "GroupRef" false

end GroupReference

/-- The groups of an item, by role. -/
structure ItemGroups where
  admin : List GroupReference
  member : List GroupReference
  other : List GroupReference
deriving DecidableEq

namespace ItemGroups

/-- An item that is shared with no groups. -/
def empty : ItemGroups :=
  ⟨[], [], []⟩

/-- The groups in all roles, first those of an administrator and last those of other searchers. -/
def all (groups : ItemGroups) : List GroupReference :=
  groups.admin ++ groups.member ++ groups.other

/-- The identifiers of all groups. -/
def ids (groups : ItemGroups) : List String :=
  groups.all.map GroupReference.id

/-- The written form of the groups of an item. -/
def toJson (groups : ItemGroups) : Json :=
  .object [("admin", .array (groups.admin.map GroupReference.toJson)),
    ("member", .array (groups.member.map GroupReference.toJson)),
    ("other", .array (groups.other.map GroupReference.toJson))]

/-- Decodes the groups of an item. A role that is left out has none. -/
def decode : Decoder ItemGroups :=
  ((Record.done mk).andThen
      (Record.withDefault "admin" [] (Decode.list GroupReference.decode))
    |>.andThen (Record.withDefault "member" [] (Decode.list GroupReference.decode))
    |>.andThen (Record.withDefault "other" [] (Decode.list GroupReference.decode))).decode
      "ItemGroups" false

end ItemGroups

/-- Finds the groups of an item by its identifier, or fails. -/
abbrev GroupDirectory := String → Except QueryError ItemGroups

/-- The directory in which no item has groups. -/
def GroupDirectory.none : GroupDirectory :=
  fun _ => .ok .empty

/-- The directory that answers the next lookup, given the identifiers that were looked up before. -/
abbrev GroupSource := List String → GroupDirectory

end CatalogSearch
