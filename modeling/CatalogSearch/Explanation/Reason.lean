import CatalogSearch.Codec.Record
import CatalogSearch.Json.Canonical

/-!
# Reasons

A reason reports one comparison of a field with a set of texts, and how it came out.
-/

namespace CatalogSearch

/-- The comparison that a reason reports. The last one reports that there was nothing to compare. -/
inductive Comparison where
  | includesAny
  | includesAll
  | excludes
  | present
deriving DecidableEq

namespace Comparison

/-- The comparisons by name, in the order in which an error lists them. -/
def named : List (String × Comparison) :=
  [("IN", .includesAny), ("ALL", .includesAll), ("NOT_IN", .excludes), ("EXISTS", .present)]

/-- The name of a comparison. -/
def name : Comparison → String
  | .includesAny => "IN"
  | .includesAll => "ALL"
  | .excludes => "NOT_IN"
  | .present => "EXISTS"

/-- A comparison is written as its name. -/
def toJson (comparison : Comparison) : Json :=
  .string comparison.name

/-- A comparison from its name. -/
def decode : Decoder Comparison :=
  Decode.variant named

/-- What a comparison says about a field, given its outcome and the texts that were asked for. -/
def message (field : String) (listed : String) : Comparison → Bool → String
  | .includesAny, true => field ++ " includes one of [" ++ listed ++ "]"
  | .includesAny, false => field ++ " includes none of [" ++ listed ++ "]"
  | .includesAll, true => field ++ " includes all of [" ++ listed ++ "]"
  | .includesAll, false => field ++ " is missing some of [" ++ listed ++ "]"
  | .excludes, true => field ++ " excludes all of [" ++ listed ++ "]"
  | .excludes, false => field ++ " includes some of [" ++ listed ++ "]"
  | .present, _ => field ++ " is not present on the result"

end Comparison

/-- One comparison of a field, and its outcome. -/
structure Reason where
  field : String
  values : List String
  comparison : Comparison
  matched : Bool
  requirement : List String
  message : String
  information : Option Json

namespace Reason

/-- The reason for a field that the document does not have. -/
def missing (field : String) : Reason where
  field := field
  values := []
  comparison := .present
  matched := false
  requirement := []
  message := Comparison.present.message field "" false
  information := none

/-- The reason for a comparison of the values of a document with those that are required. -/
def compared (field : String) (comparison : Comparison) (values requirement : List String)
    (matched : Bool) : Reason where
  field := field
  values := values
  comparison := comparison
  matched := matched
  requirement := requirement
  message := comparison.message field (", ".intercalate requirement) matched
  information := none

/-- The reason with further information. -/
def informed (information : Option Json) (reason : Reason) : Reason :=
  { reason with information := information }

/-- The written form of a reason, with what it tells besides if there is something. -/
def toJson (reason : Reason) : Json :=
  .object ([("attribute", .string reason.field), ("values", .ofStrings reason.values),
    ("condition", reason.comparison.toJson), ("matched", .bool reason.matched),
    ("requirement", .ofStrings reason.requirement), ("message", .string reason.message)] ++
    (reason.information.map fun value => ("meta", value)).toList)

/-- Decodes any value as a canonical one. -/
def decodeInformation (json : Json) : Except DecodeError Json :=
  .ok json.canonical

/-- Decodes a reason. -/
def decode : Decoder Reason :=
  ((Record.done mk).andThen (Record.required "attribute" Decode.string)
    |>.andThen (Record.required "values" (Decode.list Decode.string))
    |>.andThen (Record.required "condition" Comparison.decode)
    |>.andThen (Record.required "matched" Decode.boolean)
    |>.andThen (Record.required "requirement" (Decode.list Decode.string))
    |>.andThen (Record.required "message" Decode.string)
    |>.andThen (Record.optional "meta" decodeInformation)).decode "MatchReason" false

end Reason

end CatalogSearch
