import CatalogSearch.Expansion.Basic
import CatalogSearch.Explanation.Basic
import CatalogSearch.Explanation.Lookups
import CatalogSearch.Explanation.Membership
import CatalogSearch.Matching.Check

/-!
# Deriving explanations

Every field of the expanded query is compared with the document, whether or not an earlier
comparison failed. Groups are no attribute of a document: they are looked up by its identifier,
anew for every field that asks for them.
-/

namespace CatalogSearch

/-- The field that asks for groups. -/
def groupField : String := "group"

/-- The field by which the groups of a document are looked up. -/
def idField : String := "id"

namespace Explain

/-- The reasons of the parts of match options, for a field with the given values. -/
def comparisons (field : String) (options : MatchOptions) (values : List String) : List Reason :=
  let required := ((MatchOptions.nonempty? options.all).toList ++
    (MatchOptions.nonempty? options.exact).toList).flatten
  let any := (MatchOptions.nonempty? options.any).map fun texts =>
    Reason.compared field .includesAny values texts (meetsAny texts values)
  let all :=
    if required.isEmpty then none
    else some (Reason.compared field .includesAll values required (meetsAll required values))
  let not := (MatchOptions.nonempty? options.not).map fun texts =>
    Reason.compared field .excludes values texts (meetsNone texts values)
  any.toList ++ all.toList ++ not.toList

/-- Whether match options ask for nothing. -/
def isVacuous (options : MatchOptions) : Bool :=
  (MatchOptions.nonempty? options.any).isNone && (MatchOptions.nonempty? options.all).isNone &&
    (MatchOptions.nonempty? options.not).isNone && (MatchOptions.nonempty? options.exact).isNone

/-- The reasons for a field whose value, if it has one, is given. -/
def reasons (field : String) (options : MatchOptions) (value : Option Json)
    (information : Option Json) : List Reason :=
  if isVacuous options then []
  else
    match value with
    | none => [(Reason.missing field).informed information]
    | some value => (comparisons field options value.comparands).map (Reason.informed information)

/-- What a reason tells about the groups it compared. -/
def groupInformation (groups : ItemGroups) : Json :=
  .object [("groups", .array (groups.all.map GroupReference.toJson))]

/-- The groups of an item as the directory answers, an error included. -/
def lookup (directory : GroupDirectory) (id : String) : Lookups ItemGroups :=
  ⟨[id], directory id⟩

/-- The reasons for the groups of a document, which needs an identifier for that. -/
def groupReasons (directory : GroupDirectory) (document : Document) (options : MatchOptions) :
    Lookups (List Reason) :=
  match (document.get? idField).bind Json.asString? with
  | none => .done [Reason.missing groupField]
  | some id =>
      (lookup directory id).map fun groups =>
        reasons groupField options (some (.ofStrings groups.ids)) (some (groupInformation groups))

/-- The reasons for a condition on a field, by the kind of the field. Dates and free text cannot be
explained. -/
def field (directory : GroupDirectory) (document : Document) (entry : String × FieldCondition) :
    Lookups (List Reason) :=
  match FieldKind.ofName entry.1, entry.2.asOptions? with
  | .date, _ => .fail (.notImplemented ("explaining date field " ++ entry.1))
  | .passThrough, _ => .fail (.notImplemented ("explaining pass-through field " ++ entry.1))
  | .matching, none => .fail (.notImplemented ("explaining non-match value of " ++ entry.1))
  | .matching, some options =>
      if entry.1 = groupField then groupReasons directory document options
      else .done (reasons entry.1 options (document.value? entry.1) none)

/-- The explanation of a predicate: a match if every field has matched. -/
def predicate (source : GroupSource) (document : Document) (earlier : List String)
    (predicate : Predicate) : Lookups PredicateExplanation :=
  (Lookups.forAll (fun earlier => field (source earlier) document) earlier predicate.entries).map
    fun results => ⟨predicate, results.flatten.all Reason.matched, results.flatten⟩

/-- The explanation of a filter under the number of its source: a match as its connective combines
those of the predicates. -/
def filter (source : GroupSource) (document : Document) (earlier : List String)
    (numbered : Nat × Filter) : Lookups FilterExplanation :=
  (Lookups.forAll (predicate source document) earlier numbered.2.predicates).map fun results =>
    ⟨numbered.1, numbered.2,
      numbered.2.connective.combine (results.map PredicateExplanation.matched), results⟩

/-- The filters of expanded filters, each with the position of the filter it comes from. -/
def numberedFilters (now : Instant) (position : Nat) : List Filter → List (Nat × Filter)
  | [] => []
  | first :: rest =>
      (first.expand now).map (fun filter => (position, filter)) ++
        numberedFilters now (position + 1) rest

end Explain

/-- The explanation of a query, which must ask for items, through a source of groups. -/
def Query.explainThrough (source : GroupSource) (now : Instant) (document : Document)
    (query : Query) : Lookups QueryExplanation :=
  if query.target = .item then
    (Lookups.forAll (Explain.filter source document) []
      (Explain.numberedFilters now 0 query.filters)).map fun results =>
        ⟨document, query, results.all FilterExplanation.matched, results,
          (results.flatMap FilterExplanation.reasons).flatMap PredicateExplanation.reasons⟩
  else
    .fail (.unsupportedTarget query.target)

/-- The explanation of a query by a directory that answers every lookup. -/
def Query.explain (directory : GroupDirectory) (now : Instant) (document : Document)
    (query : Query) : Lookups QueryExplanation :=
  query.explainThrough (fun _ => directory) now document

end CatalogSearch
