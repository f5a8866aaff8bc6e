import CatalogSearch.Criteria.Basic
import CatalogSearch.Json.Document

/-!
# Evaluating criteria

Whether a document matches. A field that is missing or null meets no test. Free text is beyond
evaluation: a test of it is an error when its turn comes.
-/

namespace CatalogSearch

/-- Why criteria cannot be evaluated. -/
inductive EvaluationError where
  | freeText
deriving DecidableEq

/-- The message of an error. -/
def EvaluationError.message : EvaluationError → String
  | .freeText => "Not implemented: free-text evaluation of term"

/-- Whether all elements pass a test that may fail; they are tried in order, up to the first that
does not pass. -/
def allPass {α ε : Type} (test : α → Except ε Bool) : List α → Except ε Bool
  | [] => .ok true
  | first :: rest =>
      match test first with
      | .error error => .error error
      | .ok false => .ok false
      | .ok true => allPass test rest

/-- The results of a test that may fail, for all elements. -/
def allResults {α ε : Type} (test : α → Except ε Bool) : List α → Except ε (List Bool)
  | [] => .ok []
  | first :: rest =>
      match test first with
      | .error error => .error error
      | .ok result => (allResults test rest).map (result :: ·)

/-- The word for a truth value. -/
def flagText (value : Bool) : String :=
  if value then "true" else "false"

namespace FieldTest

/-- Whether a value that is present meets the test. -/
def holds (value : Json) : FieldTest → Except EvaluationError Bool
  | .freeText _ => .error .freeText
  | .equals text => .ok (value.comparands.contains text)
  | .anyOf texts => .ok (meetsAny texts value.comparands)
  | .allOf texts => .ok (meetsAll texts value.comparands)
  | .exact texts => .ok (meetsAll texts value.comparands)
  | .noneOf texts => .ok (meetsNone texts value.comparands)
  | .between range =>
      match value.asNumber? with
      | some number => .ok (range.contains number.toInt64)
      | none => .ok false
  | .flag expected => .ok (value.comparands.contains (flagText expected))

/-- Whether the value of a field meets the test. -/
def evaluate (value : Option Json) (test : FieldTest) : Except EvaluationError Bool :=
  match test, value with
  | .freeText _, _ => .error .freeText
  | _, none => .ok false
  | test, some value => test.holds value

end FieldTest

/-- Whether a document meets all tests of a clause. -/
def Clause.matches (document : Document) (clause : Clause) : Except EvaluationError Bool :=
  allPass (FieldTest.evaluate (document.value? clause.field)) clause.tests

/-- Whether a document passes every clause. The first error or failure decides. -/
def Conjunction.matches (document : Document) (conjunction : Conjunction) :
    Except EvaluationError Bool :=
  allPass (Clause.matches document) conjunction.clauses

/-- Whether the conjunctions of a group, all of which are evaluated, match as its connective says.
-/
def CriteriaGroup.matches (document : Document) (group : CriteriaGroup) :
    Except EvaluationError Bool :=
  (allResults (Conjunction.matches document) group.conjunctions).map group.connective.combine

/-- Whether a document passes every group. The first error or failure decides. -/
def Criteria.matches (document : Document) (criteria : Criteria) : Except EvaluationError Bool :=
  allPass (CriteriaGroup.matches document) criteria.groups

end CatalogSearch
