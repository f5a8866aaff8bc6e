import CatalogSearch.Criteria.Basic
import CatalogSearch.Settings.Basic

/-!
# Filter expressions

The items interface takes an expression of comparisons `field=value`, `field IN (value, value)` and
`field BETWEEN number AND number`, combined by keywords and parentheses.
-/

namespace CatalogSearch

namespace Ogc

/-- The keyword of a connective, between blanks. -/
def separator (connective : Connective) : List Char :=
  ' ' :: connective.keyword.toList ++ [' ']

/-- Whether a value must be written between quotes. Commas and parentheses are no reason for that.
-/
def needsQuotes (value : List Char) : Bool :=
  value.any fun character => Text.isBlank character || character == '\x27'

/-- A character of a value as it stands between quotes. -/
def quotedCharacter (character : Char) : List Char :=
  if character = '\x27' then ['\x27', '\x27'] else [character]

/-- A value as it is written: as it is, or between single quotes with every quote in it doubled. -/
def literal (value : String) : List Char :=
  if needsQuotes value.toList then
    '\x27' :: value.toList.flatMap quotedCharacter ++ ['\x27']
  else
    value.toList

/-- Values one after the other, with a comma and a blank between them. -/
def literals (values : List String) : List Char :=
  [',', ' '].intercalate (values.map literal)

/-- The comparison of a field with one value. -/
def comparison (field value : String) : List Char :=
  field.toList ++ '=' :: literal value

/-- A text between parentheses. -/
def enclosed (text : List Char) : List Char :=
  '(' :: text ++ [')']

/-- The comparison of a field with a list of values. -/
def membership (field : String) (keyword : String) (values : List String) : List Char :=
  field.toList ++ ' ' :: keyword.toList ++ ' ' :: enclosed (literals values)

/-- The text of a test. Free text has none. -/
def testText? (field : String) : FieldTest → Option (List Char)
  | .freeText _ => none
  | .equals value => some (comparison field value)
  | .anyOf [value] => some (comparison field value)
  | .anyOf values => some (membership field "IN" values)
  | .allOf values => some (requirement values)
  | .exact values => some (requirement values)
  | .noneOf values => some (membership field "NOT IN" values)
  | .between range =>
      some (field.toList ++ " BETWEEN ".toList ++ Numeral.ofInt range.earliest.toInt ++
        separator .and ++ Numeral.ofInt range.latest.toInt)
  | .flag value => some (field.toList ++ '=' :: (if value then "true" else "false").toList)
where
  /-- The comparisons with values that must all be present. -/
  requirement : List String → List Char
    | [value] => comparison field value
    | values => enclosed ((separator .and).intercalate (values.map (comparison field)))

/-- The text of a clause, if one of its tests has a text. -/
def clauseText? (clause : Clause) : Option (List Char) :=
  match clause.tests.filterMap (testText? clause.field) with
  | [] => none
  | [text] => some text
  | texts => some (enclosed ((separator .and).intercalate texts))

/-- The text of a conjunction, from those clauses that have one. -/
def conjunctionText (conjunction : Conjunction) : List Char :=
  (separator .and).intercalate (conjunction.clauses.filterMap clauseText?)

/-- The text of a group, between parentheses, from those conjunctions that have a text. -/
def groupText (group : CriteriaGroup) : List Char :=
  let texts := (group.conjunctions.map conjunctionText).filter fun text => !text.isEmpty
  enclosed ((separator group.connective).intercalate (texts.map enclosed))

/-- The expression of criteria, without the groups that have no content. -/
def expressionOf (criteria : Criteria) : String :=
  String.ofList ((separator .and).intercalate
    ((criteria.groups.map groupText).filter fun text => text != enclosed []))

/-- The expression for a query. -/
def expression (settings : OgcSettings) (now : Instant) (query : Query) : String :=
  expressionOf (query.criteria now settings.includes)

end Ogc

end CatalogSearch
