import CatalogSearch.Codec.Decoder

/-!
# Records

A record is written as an object with a member for every field, or as an array of the fields in
order. Faults are reported in the order of the text: the first member or item at fault decides the
error, and a field that is missing is noticed only at the end.
-/

namespace CatalogSearch

/-- The parts from which the fields of a record are read. -/
inductive RecordParts where
  | members (members : List (String × Json))
  | items (items : List Json)

/-- Why a record cannot be read. -/
inductive RecordFault where
  | tooFewItems (count : Nat)
  | error (error : DecodeError)

/-- A fault and the position among the parts where it is noticed. -/
structure Fault where
  position : Nat
  cause : RecordFault

/-- Reads a group of fields, whose number is known, from the parts of a record. The position of the
first of them among the fields of the record is given. -/
structure Record (α : Type) where
  names : List String
  read : Nat → RecordParts → Except Fault α

namespace Record

variable {α β : Type}

/-- The members with the given key, and their positions. -/
def occurrences (name : String) (position : Nat) : List (String × Json) → List (Nat × Json)
  | [] => []
  | (key, value) :: rest =>
      if key = name then (position, value) :: occurrences name (position + 1) rest
      else occurrences name (position + 1) rest

/-- Reads a field that occurs at the given positions. -/
def readOccurrences (name : String) (decode : Decoder α) (absent : Except Fault α) :
    List (Nat × Json) → Except Fault α
  | [] => absent
  | (position, value) :: rest =>
      match decode value, rest with
      | .error error, _ => .error ⟨position, .error error⟩
      | .ok _, (again, _) :: _ => .error ⟨again, .error (.duplicateField name)⟩
      | .ok result, [] => .ok result

/-- A field that may be left out if `fallback` has a value for it. -/
def fieldOr (name : String) (fallback : Option α) (decode : Decoder α) : Record α where
  names := [name]
  read position
    | .members members =>
        let absent :=
          match fallback with
          | some value => .ok value
          | none => .error ⟨members.length, .error (.missingField name)⟩
        readOccurrences name decode absent (occurrences name 0 members)
    | .items items =>
        match items[position]?, fallback with
        | some item, _ =>
            match decode item with
            | .ok value => .ok value
            | .error error => .error ⟨position, .error error⟩
        | none, some value => .ok value
        | none, none => .error ⟨position, .tooFewItems position⟩

/-- A field that must not be left out. -/
def required (name : String) (decode : Decoder α) : Record α :=
  fieldOr name none decode

/-- A field with a value of its own when it is left out. -/
def withDefault (name : String) (value : α) (decode : Decoder α) : Record α :=
  fieldOr name (some value) decode

/-- A field that may be left out or null. -/
def optional (name : String) (decode : Decoder α) : Record (Option α) :=
  fieldOr name (some none) (Decode.optional decode)

/-- A record without fields. -/
def done (value : α) : Record α where
  names := []
  read _ _ := .ok value

/-- Of two results the fault that is noticed first, or both values combined. -/
def combine (function : Except Fault (α → β)) (argument : Except Fault α) : Except Fault β :=
  match function, argument with
  | .ok apply, .ok value => .ok (apply value)
  | .ok _, .error fault => .error fault
  | .error fault, .ok _ => .error fault
  | .error first, .error second =>
      if second.position < first.position then .error second else .error first

/-- A record with the fields of another one behind its own. -/
def andThen (first : Record (α → β)) (second : Record α) : Record β where
  names := first.names ++ second.names
  read position parts :=
    combine (first.read position parts) (second.read (position + first.names.length) parts)

/-- The first member that is no field, as a fault. -/
def unknownMember (names : List String) (members : List (String × Json)) : Except Fault Unit :=
  match members.findIdx? fun (key, _) => !names.contains key with
  | none => .ok ()
  | some position =>
      .error ⟨position, .error (.unknownField ((members.map Prod.fst).getD position "") names)⟩

/-- The result of reading a record, with its faults in words. -/
def report (name : String) (fields : Nat) : Except Fault α → Except DecodeError α
  | .ok value => .ok value
  | .error ⟨_, .tooFewItems count⟩ => .error (.tooFewItems count name fields)
  | .error ⟨_, .error error⟩ => .error error

/-- Decodes a record. A strict one refuses members that are no fields. -/
def decode (record : Record α) (name : String) (strict : Bool) : Decoder α
  | .object members =>
      let known := if strict then unknownMember record.names members else .ok ()
      report name record.names.length
        (combine (known.map fun _ value => value) (record.read 0 (.members members)))
  | .array items => do
      let value ← report name record.names.length (record.read 0 (.items items))
      if record.names.length < items.length then .error .tooManyItems else .ok value
  | other => .error (.wrongType other (.record name))

end Record

end CatalogSearch
