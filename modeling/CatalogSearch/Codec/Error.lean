import CatalogSearch.Json.Printer
import CatalogSearch.Text.Shown

/-!
# Decoding errors

Why a JSON value is not the written form of a domain value, and the words in which this is reported.
-/

namespace CatalogSearch

/-- What a decoder expects to find. -/
inductive Expectation where
  | string
  | boolean
  | sequence
  | map
  | unit
  | unsigned32
  | signed64
  | size
  | conditions
  | record (name : String)
deriving DecidableEq

/-- What was expected, in words. -/
def Expectation.text : Expectation → String
  | .string => "a string"
  | .boolean => "a boolean"
  | .sequence => "a sequence"
  | .map => "a map"
  | .unit => "unit"
  | .unsigned32 => "u32"
  | .signed64 => "i64"
  | .size => "usize"
  | .conditions => "a map of field names to predicate values"
  | .record name => "struct " ++ name

mutual

/-- Why a value cannot be decoded. -/
inductive DecodeError where
  | wrongType (found : Json) (expected : Expectation)
  | outOfRange (found : Int) (expected : Expectation)
  | missingField (name : String)
  | duplicateField (name : String)
  | unknownField (name : String) (known : List String)
  | unknownVariant (name : String) (known : List String)
  | tooFewItems (count : Nat) (record : String) (fields : Nat)
  | tooManyItems
  | noVariant
  | notTexts
  | condition (cause : ConditionError)

/-- Why a value is not the condition of a field. -/
inductive ConditionError where
  | null
  | item (found : Json)
  | bound (name : String)
  | unit
  | count
  | options (cause : DecodeError)
  | noOptions

end

/-- A name between backquotes. -/
def quotedName (name : String) : String :=
  "\x60" ++ name ++ "\x60"

/-- The names among which one was expected. -/
def oneOf : List String → String
  | [first, second] => quotedName first ++ " or " ++ quotedName second
  | names => "one of " ++ ", ".intercalate (names.map quotedName)

/-- A value in the words of an error message. -/
def Json.description : Json → String
  | .null => "null"
  | .bool flag => "boolean " ++ quotedName (if flag then "true" else "false")
  | .number (.integer value inRange) =>
      "integer " ++ quotedName (Number.integer value inRange).text
  | .number (.double value) => "floating point " ++ quotedName (Number.double value).text
  | .string text => "string " ++ Text.shown text
  | .array _ => "sequence"
  | .object _ => "map"

mutual

/-- The message of an error. -/
def DecodeError.message : DecodeError → String
  | .wrongType found expected =>
      "invalid type: " ++ found.description ++ ", expected " ++ expected.text
  | .outOfRange found expected =>
      "invalid value: integer " ++ quotedName (String.ofList (Numeral.ofInt found)) ++
        ", expected " ++ expected.text
  | .missingField name => "missing field " ++ quotedName name
  | .duplicateField name => "duplicate field " ++ quotedName name
  | .unknownField name known => "unknown field " ++ quotedName name ++ ", expected " ++ oneOf known
  | .unknownVariant name known =>
      "unknown variant " ++ quotedName name ++ ", expected " ++ oneOf known
  | .tooFewItems count record fields =>
      "invalid length " ++ String.ofList (Numeral.digits count) ++ ", expected struct " ++ record ++
        " with " ++ String.ofList (Numeral.digits fields) ++ " elements"
  | .tooManyItems => "trailing characters"
  | .noVariant => "expected value"
  | .notTexts => "data did not match any variant of untagged enum OneOrMany"
  | .condition cause => "Invalid predicate: " ++ cause.message

/-- The words for the refusal of a field condition. -/
def ConditionError.message : ConditionError → String
  | .null => "null is not a valid predicate value"
  | .item found => "list values must be strings, found " ++ found.compact
  | .bound name => "date range requires a numeric " ++ name
  | .unit => "relative date has an unknown unit"
  | .count => "relative date requires an integer num"
  | .options cause => "malformed match options: " ++ cause.message
  | .noOptions => "match options need at least one of any, all, not, exact"

end

end CatalogSearch
