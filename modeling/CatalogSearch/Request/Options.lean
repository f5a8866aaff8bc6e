import CatalogSearch.Codec.Record

/-!
# Paging and sorting

The part of a request that does not depend on the query. It is common to both backends.
-/

namespace CatalogSearch

/-- The direction of sorting. -/
inductive SortOrder where
  | ascending
  | descending
deriving DecidableEq

namespace SortOrder

/-- The name of an order. -/
def name : SortOrder → String
  | .ascending => "asc"
  | .descending => "desc"

/-- The orders by name, in the order in which an error lists them. -/
def named : List (String × SortOrder) :=
  [("asc", .ascending), ("desc", .descending)]

/-- An order is written as its name. -/
def toJson (order : SortOrder) : Json :=
  .string order.name

/-- An order from its name. -/
def decode : Decoder SortOrder :=
  Decode.variant named

end SortOrder

/-- How many results are asked for, from which on, and in which order. -/
structure RequestOptions where
  limit : Option UInt32
  start : Option UInt32
  sortField : Option String
  sortOrder : Option SortOrder
deriving DecidableEq

/-- A number in decimal. -/
def decimalText (value : UInt32) : String :=
  String.ofList (Numeral.digits value.toNat)

namespace RequestOptions

/-- The options that are present, as members. -/
def members (options : RequestOptions) : List (String × Json) :=
  (options.limit.map fun limit => ("num", .number (.ofUInt32 limit))).toList ++
    (options.start.map fun start => ("start", .number (.ofUInt32 start))).toList ++
    (options.sortField.map fun field => ("sortField", .string field)).toList ++
    (options.sortOrder.map fun order => ("sortOrder", order.toJson)).toList

/-- The options that are present as pairs of texts. -/
def pairs (options : RequestOptions) : List (String × String) :=
  (options.limit.map fun limit => ("num", decimalText limit)).toList ++
    (options.start.map fun start => ("start", decimalText start)).toList ++
    (options.sortField.map fun field => ("sortField", field)).toList ++
    (options.sortOrder.map fun order => ("sortOrder", order.name)).toList

/-- The written form of options. -/
def toJson (options : RequestOptions) : Json :=
  .object options.members

/-- Decodes options, each of which may be left out or null. -/
def decode : Decoder RequestOptions :=
  ((Record.done mk).andThen (Record.optional "num" Decode.unsigned32)
    |>.andThen (Record.optional "start" Decode.unsigned32)
    |>.andThen (Record.optional "sortField" Decode.string)
    |>.andThen (Record.optional "sortOrder" SortOrder.decode)).decode "SearchOptions" false

end RequestOptions

end CatalogSearch
