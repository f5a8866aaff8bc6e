import CatalogSearch.Expansion.Basic
import CatalogSearch.Matching.Check

/-!
# Criteria

Criteria are what every backend renders: groups that must all match, each a combination of
conjunctions, each of clauses on single fields, each of tests. Levels without content are left out.
-/

namespace CatalogSearch

/-- A comparison with one field of a document. -/
inductive FieldTest where
  | freeText (text : String)
  | equals (text : String)
  | anyOf (texts : List String)
  | allOf (texts : List String)
  | noneOf (texts : List String)
  | exact (texts : List String)
  | between (range : DateRange)
  | flag (value : Bool)
deriving DecidableEq

/-- Tests of one field, which must all hold. -/
structure Clause where
  field : String
  tests : List FieldTest
deriving DecidableEq

/-- Clauses that must all hold. -/
structure Conjunction where
  clauses : List Clause
deriving DecidableEq

/-- A combination of conjunctions. -/
structure CriteriaGroup where
  connective : Connective
  conjunctions : List Conjunction
deriving DecidableEq

/-- Groups that must all match. -/
structure Criteria where
  groups : List CriteriaGroup
deriving DecidableEq

/-- Which fields a backend renders. -/
abbrev FieldPolicy := String → Bool

/-- The field that holds free text. -/
def termField : String := "term"

namespace MatchOptions

/-- The test of a part, unless it has no texts. -/
def partTests (part : Option Texts) (test : List String → FieldTest) : List FieldTest :=
  ((nonempty? part).map test).toList

/-- What match options ask for, part by part. Parts without texts ask for nothing. -/
def tests (options : MatchOptions) : List FieldTest :=
  partTests options.any .anyOf ++ partTests options.all .allOf ++
    partTests options.not .noneOf ++ partTests options.exact .exact

end MatchOptions

/-- The tests that a condition puts on its field. -/
def FieldCondition.tests (now : Instant) (field : String) : FieldCondition → List FieldTest
  | .text value => if field = termField then [.freeText value] else [.equals value]
  | .number value => [.equals value.text]
  | .flag value => [.flag value]
  | .list values => if values.isEmpty then [] else [.anyOf values]
  | .options value => value.tests
  | .range value => [.between value]
  | .relative value => [.between (value.resolve now)]

/-- The clause of a field, unless it has no tests. -/
def Clause.ofTests? (field : String) (tests : List FieldTest) : Option Clause :=
  if tests.isEmpty then none else some ⟨field, tests⟩

/-- The clauses of the fields that the policy includes, unless there are none. -/
def Predicate.conjunction? (now : Instant) (policy : FieldPolicy) (predicate : Predicate) :
    Option Conjunction :=
  let included := predicate.entries.filter fun (field, _) => policy field
  let clauses := included.filterMap fun (field, condition) =>
    Clause.ofTests? field (condition.tests now field)
  if clauses.isEmpty then none else some ⟨clauses⟩

/-- The conjunctions of the predicates of an expanded filter, unless there are none. -/
def Filter.criteriaGroup? (now : Instant) (policy : FieldPolicy) (filter : Filter) :
    Option CriteriaGroup :=
  let conjunctions := filter.predicates.filterMap (Predicate.conjunction? now policy)
  if conjunctions.isEmpty then none else some ⟨filter.connective, conjunctions⟩

/-- The criteria of a query: those of its expansion, on the fields that the policy includes. -/
def Query.criteria (now : Instant) (policy : FieldPolicy) (query : Query) : Criteria :=
  ⟨(query.expand now).filters.filterMap (Filter.criteriaGroup? now policy)⟩

/-- Whether criteria ask for nothing. -/
def Criteria.isEmpty (criteria : Criteria) : Bool :=
  criteria.groups.isEmpty

end CatalogSearch
