import CatalogSearch.Calendar.DateRange
import CatalogSearch.Json.Canonical
import CatalogSearch.Matching.Options

/-!
# Field conditions

What a predicate asks of one field. The JSON form of a condition is read as a canonical value, so of
repeated members only the last counts.
-/

namespace CatalogSearch

/-- The condition that a predicate puts on a field. -/
inductive FieldCondition where
  | flag (value : Bool)
  | number (value : Number)
  | text (value : String)
  | list (values : List String)
  | options (value : MatchOptions)
  | range (value : DateRange)
  | relative (value : RelativeDate)
deriving DecidableEq

namespace FieldCondition

/-- The text of a condition that is one text. -/
def asText? : FieldCondition → Option String
  | .text value => some value
  | _ => none

/-- The match options of a condition that has them. -/
def asOptions? : FieldCondition → Option MatchOptions
  | .options value => some value
  | _ => none

/-- The written form of a condition. -/
def toJson : FieldCondition → Json
  | .flag value => .bool value
  | .number value => .number value
  | .text value => .string value
  | .list values => .ofStrings values
  | .options value => value.toJson
  | .range value => value.toJson
  | .relative value => value.toJson

/-- The texts of a list whose items are all strings. -/
def listTexts : List Json → Except ConditionError (List String)
  | [] => .ok []
  | .string first :: rest => (listTexts rest).map (first :: ·)
  | other :: _ => .error (.item other)

/-- An end of a range, from the member with the given name. -/
def bound (name : String) (members : List (String × Json)) : Except ConditionError Int64 :=
  match (members.lookup name).bind Json.asNumber? with
  | some value => .ok value.toInt64
  | none => .error (.bound name)

/-- A range from the members of an object that is one by its type. -/
def rangeOfMembers (members : List (String × Json)) : Except ConditionError DateRange := do
  let earliest ← bound "from" members
  let latest ← bound "to" members
  .ok ⟨earliest, latest⟩

/-- A relative date from the members of an object that is one by its type. -/
def relativeOfMembers (members : List (String × Json)) : Except ConditionError RelativeDate :=
  match ((members.lookup "unit").bind Json.asString?).bind TimeUnit.ofName? with
  | none => .error .unit
  | some unit =>
      match ((members.lookup "num").bind Json.asNumber?).bind Number.toInt64? with
      | none => .error .count
      | some count => .ok ⟨unit, count⟩

/-- The match options that an object denotes, at least one of them. -/
def optionsOfMembers (members : List (String × Json)) : Except ConditionError MatchOptions :=
  match MatchOptions.decode (.object members) with
  | .error cause => .error (.options cause)
  | .ok found => if found.isEmpty then .error .noOptions else .ok found

/-- The condition that a canonical value denotes. -/
def ofCanonical : Json → Except ConditionError FieldCondition
  | .null => .error .null
  | .bool value => .ok (.flag value)
  | .number value => .ok (.number value)
  | .string value => .ok (.text value)
  | .array items => (listTexts items).map .list
  | .object members =>
      match (members.lookup "type").bind Json.asString? with
      | some "date-range" => (rangeOfMembers members).map .range
      | some "relative-date" => (relativeOfMembers members).map .relative
      | _ => (optionsOfMembers members).map .options

/-- The condition that a value stands for. Of members with one key the last counts. -/
def ofJson (json : Json) : Except ConditionError FieldCondition :=
  ofCanonical json.canonical

/-- Decodes a condition. -/
def decode (json : Json) : Except DecodeError FieldCondition :=
  match ofJson json with
  | .ok condition => .ok condition
  | .error cause => .error (.condition cause)

end FieldCondition

end CatalogSearch
