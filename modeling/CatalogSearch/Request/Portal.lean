import CatalogSearch.Portal.Search
import CatalogSearch.Request.Options

/-!
# Portal requests

A portal request is a search with paging and sorting. It is sent as pairs or as an object; a
parameter may carry the name of another part, which then occurs twice.
-/

namespace CatalogSearch

/-- A search with paging and sorting. -/
structure PortalRequest where
  search : PortalSearch
  options : RequestOptions
deriving DecidableEq

namespace PortalRequest

/-- The request for a query. -/
def ofQuery (settings : PortalSettings) (options : RequestOptions) (now : Instant) (query : Query) :
    PortalRequest :=
  ⟨.ofQuery settings now query, options⟩

/-- The request as pairs of texts: the texts of the search, its parameters and the options. -/
def pairs (request : PortalRequest) : List (String × String) :=
  (request.search.query.map fun text => ("q", text)).toList ++
    (request.search.exact.map fun text => ("filter", text)).toList ++
    request.search.parameters ++ request.options.pairs

/-- The request as an object, in the order of the pairs. -/
def toJson (request : PortalRequest) : Json :=
  .object ((request.search.query.map fun text => ("q", .string text)).toList ++
    (request.search.exact.map fun text => ("filter", .string text)).toList ++
    request.search.parameters.map (fun (name, value) => (name, .string value)) ++
    request.options.members)

end PortalRequest

end CatalogSearch
