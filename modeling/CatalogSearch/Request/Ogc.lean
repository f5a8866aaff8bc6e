import CatalogSearch.Ogc.Expression
import CatalogSearch.Request.Options
import CatalogSearch.Request.PercentEncoding

/-!
# Items requests

A request to the items interface carries the filter expression, free text, a bounding box, paging
and sorting. It is sent as the query part of an address or as an object.
-/

namespace CatalogSearch

/-- A request to the items interface. -/
structure ItemsRequest where
  filter : Option String
  terms : Option String
  boundingBox : Option String
  limit : UInt32
  start : Option UInt32
  sortBy : Option String
deriving DecidableEq

namespace ItemsRequest

/-- The texts that the query has for a field. -/
def textsOn (query : Query) (field : String) : List String :=
  (query.conditionsOn field).filterMap FieldCondition.asText?

/-- The field by which results are sorted, with a minus sign for descending order. -/
def sorting (options : RequestOptions) : Option String :=
  options.sortField.map fun field =>
    match options.sortOrder with
    | some .descending => "-" ++ field
    | _ => field

/-- The request for a query: its filter expression, all its free texts, its first bounding box and
the options. -/
def ofQuery (settings : OgcSettings) (options : RequestOptions) (now : Instant) (query : Query) :
    ItemsRequest where
  filter :=
    let expression := Ogc.expression settings now query
    if expression.isEmpty then none else some expression
  terms :=
    let texts := textsOn query termField
    if texts.isEmpty then none else some (" ".intercalate texts)
  boundingBox := (textsOn query "bbox").head?
  limit := options.limit.getD settings.defaultLimit
  start := options.start
  sortBy := sorting options

/-- The request as pairs of texts, in a fixed order. -/
def pairs (request : ItemsRequest) : List (String × String) :=
  (request.filter.map fun text => ("filter", text)).toList ++
    (request.terms.map fun text => ("q", text)).toList ++
    (request.boundingBox.map fun text => ("bbox", text)).toList ++
    [("limit", decimalText request.limit)] ++
    (request.start.map fun start => ("startindex", decimalText start)).toList ++
    (request.sortBy.map fun field => ("sortBy", field)).toList

/-- A pair in the query part of an address. -/
def pairText (pair : String × String) : List Char :=
  pair.1.toList ++ '=' :: PercentEncoding.encode pair.2

/-- The request as the query part of an address. -/
def queryString (request : ItemsRequest) : String :=
  String.ofList (['&'].intercalate (request.pairs.map pairText))

/-- The request as an object, in the order of the pairs. -/
def toJson (request : ItemsRequest) : Json :=
  .object ((request.filter.map fun text => ("filter", .string text)).toList ++
    (request.terms.map fun text => ("q", .string text)).toList ++
    (request.boundingBox.map fun text => ("bbox", .string text)).toList ++
    [("limit", .number (.ofUInt32 request.limit))] ++
    (request.start.map fun start => ("startindex", .number (.ofUInt32 start))).toList ++
    (request.sortBy.map fun field => ("sortBy", .string field)).toList)

end ItemsRequest

end CatalogSearch
