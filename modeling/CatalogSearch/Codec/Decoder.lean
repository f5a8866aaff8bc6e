import CatalogSearch.Codec.Error

/-!
# Decoders

A decoder reads a domain value from a JSON value or says why it cannot. Items are decoded in order,
and the first that fails decides the error.
-/

namespace CatalogSearch

/-- Reads a domain value from a JSON value. -/
abbrev Decoder (α : Type) := Json → Except DecodeError α

namespace Decode

variable {α : Type}

/-- Decodes a string. -/
def string : Decoder String
  | .string text => .ok text
  | other => .error (.wrongType other .string)

/-- Decodes a boolean. -/
def boolean : Decoder Bool
  | .bool flag => .ok flag
  | other => .error (.wrongType other .boolean)

/-- Decodes an integer from zero up to the bound, which is left out. A double is no integer,
whatever its value. -/
def natural (bound : Nat) (expected : Expectation) : Decoder Nat
  | .number (.integer value _) =>
      if 0 ≤ value ∧ value < bound then .ok value.toNat else .error (.outOfRange value expected)
  | other => .error (.wrongType other expected)

/-- Decodes an integer of 32 bits without sign. -/
def unsigned32 (json : Json) : Except DecodeError UInt32 :=
  (natural 4294967296 .unsigned32 json).map UInt32.ofNat

/-- Decodes an integer of 64 bits with a sign. -/
def signed64 : Decoder Int64
  | .number (.integer value _) =>
      if value < 9223372036854775808 then .ok (Int64.ofInt value)
      else .error (.outOfRange value .signed64)
  | other => .error (.wrongType other .signed64)

/-- Decodes items one after the other, up to the first that fails. -/
def items (decode : Decoder α) : List Json → Except DecodeError (List α)
  | [] => .ok []
  | item :: rest => do
      let first ← decode item
      let others ← items decode rest
      .ok (first :: others)

/-- Decodes an array whose items are all decoded alike. -/
def list (decode : Decoder α) : Decoder (List α)
  | .array values => items decode values
  | other => .error (.wrongType other .sequence)

/-- Decodes null as nothing and every other value as something. -/
def optional (decode : Decoder α) : Decoder (Option α)
  | .null => .ok none
  | other => (decode other).map some

/-- The value with the given name among several. An error lists the names of all. -/
def variantNamed (variants : List (String × α)) (name : String) : Except DecodeError α :=
  match variants.lookup name with
  | some value => .ok value
  | none => .error (.unknownVariant name (variants.map Prod.fst))

/-- Decodes one of several named values: its name, or an object whose only member is that name with
null. -/
def variant (variants : List (String × α)) : Decoder α
  | .string name => variantNamed variants name
  | .object ((name, content) :: rest) => do
      let value ← variantNamed variants name
      match content with
      | .null => if rest.isEmpty then .ok value else .error .noVariant
      | other => .error (.wrongType other .unit)
  | _ => .error .noVariant

end Decode

end CatalogSearch
