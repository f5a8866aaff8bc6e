import CatalogSearch.Json.Reader
import CatalogSearch.Query.Entries

/-!
# Predicates

A predicate maps fields to conditions that must all hold. Fields keep the order in which they became
present; setting a field that is present leaves it in its place.
-/

namespace CatalogSearch

/-- Conditions on fields, which must all hold. -/
structure Predicate where
  entries : FieldEntries
  distinct : entries.names.Nodup
deriving DecidableEq

namespace Predicate

/-- The predicate without fields. -/
def empty : Predicate :=
  ⟨[], .nil⟩

/-- The names of the fields, in order. -/
def fields (predicate : Predicate) : List String :=
  predicate.entries.names

/-- The condition of a field, if it has one. -/
def get? (predicate : Predicate) (field : String) : Option FieldCondition :=
  predicate.entries.lookup field

/-- Whether a predicate has a field. -/
def contains (predicate : Predicate) (field : String) : Bool :=
  (predicate.get? field).isSome

/-- Sets the condition of a field and returns the one it replaces. -/
def replace (predicate : Predicate) (field : String) (condition : FieldCondition) :
    Option FieldCondition × Predicate :=
  let result := FieldEntries.set field condition predicate.entries
  (result.1, ⟨result.2, FieldEntries.nodup_names_set predicate.distinct⟩)

/-- Gives a field a condition, in its place if it has one. -/
def insert (predicate : Predicate) (field : String) (condition : FieldCondition) : Predicate :=
  (predicate.replace field condition).2

/-- Removes the condition of a field and returns it. -/
def remove (predicate : Predicate) (field : String) : Option FieldCondition × Predicate :=
  let result := FieldEntries.unset field predicate.entries
  (result.1, ⟨result.2,
    List.Nodup.sublist (FieldEntries.names_unset_sublist field predicate.entries)
      predicate.distinct⟩)

/-- Removes a field. -/
def erase (predicate : Predicate) (field : String) : Predicate :=
  (predicate.remove field).2

/-- Setting the condition of a field returns the one that it had. -/
theorem replace_fst (predicate : Predicate) (field : String) (condition : FieldCondition) :
    (predicate.replace field condition).1 = predicate.get? field :=
  FieldEntries.set_fst field condition predicate.entries

/-- A field that is given a condition holds it, and all others hold what they did. -/
theorem get?_insert (predicate : Predicate) (field name : String) (condition : FieldCondition) :
    (predicate.insert field condition).get? name =
      if name = field then some condition else predicate.get? name :=
  FieldEntries.lookup_set field name condition predicate.entries

/-- A field that is present keeps its place; another is added at the end. -/
theorem fields_insert (predicate : Predicate) (field : String) (condition : FieldCondition) :
    (predicate.insert field condition).fields =
      if field ∈ predicate.fields then predicate.fields else predicate.fields ++ [field] :=
  FieldEntries.names_set field condition predicate.entries

/-- Removing the condition of a field returns the one that it had. -/
theorem remove_fst (predicate : Predicate) (field : String) :
    (predicate.remove field).1 = predicate.get? field :=
  FieldEntries.unset_fst field predicate.entries

/-- A field that is removed holds nothing, and all others hold what they did. -/
theorem get?_erase (predicate : Predicate) (field name : String) :
    (predicate.erase field).get? name = if name = field then none else predicate.get? name :=
  FieldEntries.lookup_unset field name predicate.distinct

/-- Gives conditions to fields, one after the other. -/
def insertAll (predicate : Predicate) (entries : FieldEntries) : Predicate :=
  entries.foldl (fun predicate (field, condition) => predicate.insert field condition) predicate

/-- Every entry of the result was there before or has been given. -/
theorem mem_insertAll {predicate : Predicate} {entries : FieldEntries}
    {entry : String × FieldCondition} (member : entry ∈ (predicate.insertAll entries).entries) :
    entry ∈ predicate.entries ∨ entry ∈ entries := by
  induction entries generalizing predicate with
  | nil => exact .inl member
  | cons first rest ih =>
      rcases ih member with early | late
      · exact (FieldEntries.mem_set early).elim (fun same => .inr (List.mem_cons.mpr (.inl same)))
          .inl
      · exact .inr (List.mem_cons_of_mem first late)

/-- Setting different fields that are absent appends them. -/
theorem entries_insertAll {predicate : Predicate} {entries : FieldEntries}
    (distinct : (predicate.entries ++ entries).names.Nodup) :
    (predicate.insertAll entries).entries = predicate.entries ++ entries := by
  induction entries generalizing predicate with
  | nil => exact (List.append_nil _).symm
  | cons entry rest ih =>
      obtain ⟨field, condition⟩ := entry
      have absent : field ∉ predicate.entries.names := by
        rw [FieldEntries.names, List.map_append, List.map_cons] at distinct
        exact fun member => (List.nodup_append.mp distinct).2.2 field member field
          List.mem_cons_self rfl
      have inserted : (predicate.insert field condition).entries =
          predicate.entries ++ [(field, condition)] := FieldEntries.set_of_not_mem absent condition
      have moved : (predicate.insert field condition).entries ++ rest =
          predicate.entries ++ (field, condition) :: rest := by
        rw [inserted, List.append_assoc]
        rfl
      exact (ih (by rwa [moved])).trans moved

/-- The predicate of the given fields, the later of two entries for a field counting. -/
def ofEntries (entries : FieldEntries) : Predicate :=
  empty.insertAll entries

/-- A predicate is made of its entries. -/
theorem ofEntries_entries (predicate : Predicate) : ofEntries predicate.entries = predicate := by
  obtain ⟨entries, distinct⟩ := predicate
  have same : (ofEntries entries).entries = entries := @entries_insertAll empty entries distinct
  revert same
  generalize ofEntries entries = other
  rintro rfl
  rfl

/-- Replaces every condition by one that depends on its field. -/
def mapConditions (change : String → FieldCondition → FieldCondition) (predicate : Predicate) :
    Predicate where
  entries := predicate.entries.map fun (field, condition) => (field, change field condition)
  distinct := by
    have same : FieldEntries.names
        (predicate.entries.map fun (field, condition) => (field, change field condition)) =
          predicate.entries.names := by
      simp [FieldEntries.names]
    rw [same]
    exact predicate.distinct

/-- The written form of a predicate. -/
def toJson (predicate : Predicate) : Json :=
  .object (predicate.entries.map fun (field, condition) => (field, condition.toJson))

/-- Decodes members one after the other, up to the first that fails. -/
def decodeMembers : List (String × Json) → Except DecodeError FieldEntries
  | [] => .ok []
  | (field, value) :: rest => do
      let condition ← FieldCondition.decode value
      let entries ← decodeMembers rest
      .ok ((field, condition) :: entries)

/-- Decodes a predicate. Of members with one key the last counts, in the place of the first. -/
def decode : Decoder Predicate
  | .object members => (decodeMembers members).map ofEntries
  | other => .error (.wrongType other .conditions)

/-- Why a text is no predicate: it is no JSON text, or not the written form of a predicate. -/
inductive ParseError where
  | notJson
  | refused (cause : DecodeError)

/-- The words for the error, where they are fixed. -/
def ParseError.message? : ParseError → Option String
  | .notJson => none
  | .refused cause => some ("Invalid predicate: " ++ cause.message)

/-- Reads a predicate from a text. -/
def parse (text : String) : Except ParseError Predicate :=
  match Json.parse? text with
  | none => .error .notJson
  | some json =>
      match decode json with
      | .ok predicate => .ok predicate
      | .error cause => .error (.refused cause)

end Predicate

end CatalogSearch
