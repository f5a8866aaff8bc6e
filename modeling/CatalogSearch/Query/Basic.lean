import CatalogSearch.Query.Predicate

/-!
# Queries

A query asks for one kind of entity and has filters that must all match. A filter combines
predicates with a connective.
-/

namespace CatalogSearch

/-- How the predicates of a filter are combined. -/
inductive Connective where
  | and
  | or
deriving DecidableEq

namespace Connective

/-- The keyword of a connective. -/
def keyword : Connective → String
  | .and => "AND"
  | .or => "OR"

/-- The connectives by keyword, in the order in which an error lists them. -/
def named : List (String × Connective) :=
  [("AND", .and), ("OR", .or)]

/-- Combines truth values. -/
def combine : Connective → List Bool → Bool
  | .and, values => values.all id
  | .or, values => values.any id

/-- A connective is written as its keyword. -/
def toJson (connective : Connective) : Json :=
  .string connective.keyword

/-- A connective from its keyword. -/
def decode : Decoder Connective :=
  Decode.variant named

end Connective

/-- A combination of predicates. -/
structure Filter where
  connective : Connective
  predicates : List Predicate
deriving DecidableEq

namespace Filter

/-- The written form of a filter. -/
def toJson (filter : Filter) : Json :=
  .object [("operation", filter.connective.toJson),
    ("predicates", .array (filter.predicates.map Predicate.toJson))]

/-- Decodes a filter. Without a connective its predicates must all hold. -/
def decode : Decoder Filter :=
  ((Record.done mk).andThen (Record.withDefault "operation" .and Connective.decode)
    |>.andThen (Record.withDefault "predicates" [] (Decode.list Predicate.decode))).decode
      "Filter" false

end Filter

/-- A kind of entity in the catalog. -/
inductive EntityType where
  | item
  | group
  | user
  | event
  | groupMember
deriving DecidableEq

namespace EntityType

/-- The name of what is searched for. -/
def name : EntityType → String
  | .item => "item"
  | .group => "group"
  | .user => "user"
  | .event => "event"
  | .groupMember => "groupMember"

/-- What is searched for by name, in the order in which an error lists it. -/
def named : List (String × EntityType) :=
  [("item", .item), ("group", .group), ("user", .user), ("event", .event),
    ("groupMember", .groupMember)]

/-- What is searched for is written as its name. -/
def toJson (entity : EntityType) : Json :=
  .string entity.name

/-- What is searched for, from its name. -/
def decode : Decoder EntityType :=
  Decode.variant named

end EntityType

/-- Filters that must all match, for one kind of entity. -/
structure Query where
  target : EntityType
  filters : List Filter
deriving DecidableEq

namespace Query

/-- The predicates of all filters, in order. -/
def predicates (query : Query) : List Predicate :=
  query.filters.flatMap Filter.predicates

/-- The conditions that the predicates put on a field. -/
def conditionsOn (query : Query) (field : String) : List FieldCondition :=
  query.predicates.filterMap fun predicate => predicate.get? field

/-- The written form of a query. -/
def toJson (query : Query) : Json :=
  .object [("targetEntity", query.target.toJson),
    ("filters", .array (query.filters.map Filter.toJson))]

/-- Decodes a query. Without filters it has an empty list of them. -/
def decode : Decoder Query :=
  ((Record.done mk).andThen (Record.required "targetEntity" EntityType.decode)
    |>.andThen (Record.withDefault "filters" [] (Decode.list Filter.decode))).decode "Query" false

end Query

end CatalogSearch
