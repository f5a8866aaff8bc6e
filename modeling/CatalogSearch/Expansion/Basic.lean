import CatalogSearch.Expansion.Alternatives
import CatalogSearch.Query.FieldKind

/-!
# Expansion

Expansion replaces shortcuts by their alternatives, relative dates by ranges and terse conditions by
match options. An expanded query is its own expansion.
-/

namespace CatalogSearch

/-- A condition with a relative date resolved on a field of dates, and as match options on a field
that is matched. -/
def FieldCondition.expand (now : Instant) (field : String) (condition : FieldCondition) :
    FieldCondition :=
  match FieldKind.ofName field, condition with
  | .date, .relative value => .range (value.resolve now)
  | .matching, .text value => .options (.ofAny [value])
  | .matching, .list values => .options (.ofAny values)
  | .matching, .flag value => .options (.ofAny [if value then "true" else "false"])
  | .matching, .number value => .options (.ofAny [value.text])
  | _, other => other

/-- A predicate with all its conditions expanded. -/
def Predicate.expand (now : Instant) (predicate : Predicate) : Predicate :=
  predicate.mapConditions (FieldCondition.expand now)

namespace Filter

/-- Whether the alternatives of a predicate stay in their filter: in a disjunction always, in a
conjunction only a single one. -/
def keeps (connective : Connective) (alternatives : List Predicate) : Bool :=
  connective = .or || alternatives.length == 1

/-- The filters that an expanded filter consists of. The alternatives that do not stay become
disjunctions of their own, behind the filter they come from. -/
def expand (now : Instant) (filter : Filter) : List Filter :=
  let groups := filter.predicates.map Predicate.alternatives
  let kept := (groups.filter (keeps filter.connective)).flatten
  let moved := groups.filter fun group => !keeps filter.connective group
  let rest :=
    if kept.isEmpty && !filter.predicates.isEmpty then []
    else [⟨filter.connective, kept.map (Predicate.expand now)⟩]
  rest ++ moved.map fun group => ⟨.or, group.map (Predicate.expand now)⟩

end Filter

/-- A query with all its filters expanded, in order. -/
def Query.expand (now : Instant) (query : Query) : Query :=
  ⟨query.target, query.filters.flatMap (Filter.expand now)⟩

end CatalogSearch
