import CatalogSearch.Explanation.Reason
import CatalogSearch.Json.Document
import CatalogSearch.Query.Basic

/-!
# Explanations

An explanation tells whether a document matches a query, for the query, each filter of its expansion
and each predicate, down to the reasons.
-/

namespace CatalogSearch

/-- Why a predicate matches or not. -/
structure PredicateExplanation where
  predicate : Predicate
  matched : Bool
  reasons : List Reason

/-- Why a filter matches or not. It comes from the expansion of the filter at position `source` of
the query. -/
structure FilterExplanation where
  source : Nat
  filter : Filter
  matched : Bool
  reasons : List PredicateExplanation

/-- Why a document matches a query or not, with all reasons in order. -/
structure QueryExplanation where
  document : Document
  query : Query
  matched : Bool
  reasons : List FilterExplanation
  summary : List Reason

namespace Document

/-- Decodes a document, whose members may have any values. -/
def decode : Decoder Document
  | .object members => .ok (ofMembers members)
  | other => .error (.wrongType other .map)

end Document

namespace PredicateExplanation

/-- The written form of an explained predicate. -/
def toJson (explanation : PredicateExplanation) : Json :=
  .object [("predicate", explanation.predicate.toJson), ("matched", .bool explanation.matched),
    ("reasons", .array (explanation.reasons.map Reason.toJson))]

/-- Decodes an explained predicate. -/
def decode : Decoder PredicateExplanation :=
  ((Record.done mk).andThen (Record.required "predicate" Predicate.decode)
    |>.andThen (Record.required "matched" Decode.boolean)
    |>.andThen (Record.required "reasons" (Decode.list Reason.decode))).decode
      "PredicateExplanation" false

end PredicateExplanation

namespace FilterExplanation

/-- The written form of an explained filter. -/
def toJson (explanation : FilterExplanation) : Json :=
  .object [("source", .number (.ofNat explanation.source)), ("filter", explanation.filter.toJson),
    ("matched", .bool explanation.matched),
    ("reasons", .array (explanation.reasons.map PredicateExplanation.toJson))]

/-- Decodes an explained filter. -/
def decode : Decoder FilterExplanation :=
  ((Record.done mk).andThen (Record.required "source" (Decode.natural 18446744073709551616 .size))
    |>.andThen (Record.required "filter" Filter.decode)
    |>.andThen (Record.required "matched" Decode.boolean)
    |>.andThen (Record.required "reasons" (Decode.list PredicateExplanation.decode))).decode
      "FilterExplanation" false

end FilterExplanation

namespace QueryExplanation

/-- The written form of an explanation. -/
def toJson (explanation : QueryExplanation) : Json :=
  .object [("result", explanation.document.toJson), ("query", explanation.query.toJson),
    ("matched", .bool explanation.matched),
    ("reasons", .array (explanation.reasons.map FilterExplanation.toJson)),
    ("summary", .array (explanation.summary.map Reason.toJson))]

/-- Decodes an explanation. -/
def decode : Decoder QueryExplanation :=
  ((Record.done mk).andThen (Record.required "result" Document.decode)
    |>.andThen (Record.required "query" Query.decode)
    |>.andThen (Record.required "matched" Decode.boolean)
    |>.andThen (Record.required "reasons" (Decode.list FilterExplanation.decode))
    |>.andThen (Record.required "summary" (Decode.list Reason.decode))).decode
      "QueryExplanation" false

end QueryExplanation

end CatalogSearch
