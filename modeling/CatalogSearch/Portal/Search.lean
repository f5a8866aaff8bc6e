import CatalogSearch.Criteria.Basic
import CatalogSearch.Settings.Basic
import CatalogSearch.Text.KeyOrder

/-!
# Portal searches

The portal takes a search text of comparisons `field:"value"`, a second text with the exact values
of some fields, which it joins to the first, and request parameters.
-/

namespace CatalogSearch

/-- The parts of a portal search. -/
structure PortalSearch where
  query : Option String
  exact : Option String
  parameters : List (String × String)
deriving DecidableEq

namespace Portal

/-- The texts of the two parts of a search, where they are not empty. -/
structure Parts where
  query : List (List Char)
  exact : List (List Char)

/-- No texts in either part. -/
def Parts.empty : Parts :=
  ⟨[], []⟩

/-- The parts of two sources, one after the other. -/
def Parts.append (first second : Parts) : Parts :=
  ⟨first.query ++ second.query, first.exact ++ second.exact⟩

/-- The keyword of a connective, between blanks. -/
def separator (connective : Connective) : List Char :=
  ' ' :: connective.keyword.toList ++ [' ']

/-- Joins texts by a connective, in parentheses when there are several. Empty texts are left out. -/
def group (connective : Connective) (texts : List (List Char)) : List (List Char) :=
  match texts.filter fun text => !text.isEmpty with
  | [] => []
  | [text] => [text]
  | texts => ['(' :: (separator connective).intercalate texts ++ [')']]

/-- The texts of each part, joined by a connective. -/
def Parts.group (connective : Connective) (parts : Parts) : Parts :=
  ⟨Portal.group connective parts.query, Portal.group connective parts.exact⟩

/-- A character of a value as it stands between quotes. -/
def phraseCharacter (character : Char) : List Char :=
  if character = '"' then ['\\', '"'] else [character]

/-- A value between quotes, with a backslash before every quote in it. -/
def phrase (value : String) : List Char :=
  '"' :: value.toList.flatMap phraseCharacter ++ ['"']

/-- The comparison of a field with one value. -/
def term (field value : String) : List Char :=
  field.toList ++ ':' :: phrase value

/-- The comparisons of a field with several values, joined by a connective. -/
def terms (connective : Connective) (field : String) (values : List String) : List (List Char) :=
  group connective (values.map (term field))

/-- An end of a range as it is written. -/
def bound (value : Int64) : List Char :=
  Numeral.ofInt value.toInt

/-- The values that a field must have and that stay in the search text: those of all-of tests and,
unless they are sent apart, those of exact tests. -/
def requiredValues (apart : Bool) (tests : List FieldTest) : List String :=
  tests.flatMap fun test =>
    match test with
    | .allOf values => values
    | .exact values => if apart then [] else values
    | _ => []

/-- The parts of a test. The required values of the field are written at the first test that asks
for some of them; `written` tells whether that test has passed. -/
def testParts (field : String) (apart : Bool) (required : List String) (written : Bool) :
    FieldTest → Parts
  | .freeText text => ⟨[text.toList], []⟩
  | .equals value => ⟨[term field value], []⟩
  | .anyOf values => ⟨terms .or field values, []⟩
  | .allOf _ => ⟨if written then [] else terms .and field required, []⟩
  | .exact values =>
      if apart then ⟨[], terms .and field values⟩
      else ⟨if written then [] else terms .and field required, []⟩
  | .noneOf values =>
      ⟨group .and ((field.toList ++ [':', '*']) ::
        values.map fun value => '-' :: term field value), []⟩
  | .between range =>
      ⟨[field.toList ++ [':', '['] ++ bound range.earliest ++ [' ', 'T', 'O', ' '] ++
        bound range.latest ++ [']']], []⟩
  | .flag value => ⟨[field.toList ++ ':' :: (if value then "true" else "false").toList], []⟩

/-- Whether a test asks for required values that stay in the search text. -/
def asksRequired (apart : Bool) : FieldTest → Bool
  | .allOf _ => true
  | .exact _ => !apart
  | _ => false

/-- The parts of the tests on a field, in order. The flag tells whether the required values have
been written. -/
def testsParts (field : String) (apart : Bool) (required : List String) :
    Bool → List FieldTest → Parts
  | _, [] => .empty
  | written, test :: rest =>
      (testParts field apart required written test).append
        (testsParts field apart required (written || asksRequired apart test) rest)

/-- The parts of a clause. Exact values are sent apart if the settings allow it for the field. -/
def clauseParts (settings : PortalSettings) (routeExact : Bool) (clause : Clause) : Parts :=
  let apart := routeExact && settings.isFilterable clause.field
  testsParts clause.field apart (requiredValues apart clause.tests) false clause.tests

/-- The parts of a conjunction. -/
def conjunctionParts (settings : PortalSettings) (routeExact : Bool) (conjunction : Conjunction) :
    Parts :=
  (conjunction.clauses.foldr (fun clause parts =>
    (clauseParts settings routeExact clause).append parts) .empty).group .and

/-- The parts of a group. Exact values are sent apart only where that cannot widen a disjunction. -/
def groupParts (settings : PortalSettings) (criteria : CriteriaGroup) : Parts :=
  let routeExact := criteria.connective = .and || criteria.conjunctions.length == 1
  (criteria.conjunctions.foldr (fun conjunction parts =>
    (conjunctionParts settings routeExact conjunction).append parts) .empty).group
      criteria.connective

/-- Joins the texts of the groups, unless all are empty. -/
def topLevel (texts : List (List Char)) : Option String :=
  match (separator .and).intercalate (texts.filter fun text => !text.isEmpty) with
  | [] => none
  | joined => some (String.ofList joined)

/-- The text of a condition that can be sent as a parameter. -/
def parameterText? : FieldCondition → Option String
  | .text value => some value
  | .list values => if values.isEmpty then none else some (",".intercalate values)
  | .flag value => some (if value then "true" else "false")
  | .number value => some value.text
  | _ => none

/-- The value of a parameter: the first that the query has for its field. -/
def parameter? (query : Query) (field : String) : Option String :=
  (query.conditionsOn field).findSome? parameterText?

/-- The parameters of a query, ordered by name. -/
def parameters (settings : PortalSettings) (query : Query) : List (String × String) :=
  KeyOrder.sort ((settings.parameterFields.filter settings.allows).filterMap fun field =>
    (parameter? query field).map fun value => (field, value))

end Portal

namespace PortalSearch

/-- The search for criteria, with the given parameters. -/
def ofCriteria (settings : PortalSettings) (criteria : Criteria)
    (parameters : List (String × String)) : PortalSearch :=
  let parts := criteria.groups.foldr (fun group parts =>
    (Portal.groupParts settings group).append parts) .empty
  ⟨Portal.topLevel parts.query, Portal.topLevel parts.exact, parameters⟩

/-- The search for a query. -/
def ofQuery (settings : PortalSettings) (now : Instant) (query : Query) : PortalSearch :=
  ofCriteria settings (query.criteria now settings.includes) (Portal.parameters settings query)

/-- Whether a search has neither texts nor parameters. -/
def isEmpty (search : PortalSearch) : Bool :=
  search.query.isNone && search.exact.isNone && search.parameters.isEmpty

end PortalSearch

end CatalogSearch
