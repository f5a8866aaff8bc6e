import CatalogSearch.Codec.Record
import CatalogSearch.Text.KeyOrder

/-!
# Records read from their members

A field of a record is read from the only member with its name, wherever this stands
(`Record.reads_fieldOr`), so a record is decoded from any object that has its fields. Conversely, a
field of a decoded record has its value from a decoder, or by default (`Record.of_read_fieldOr`).
-/

namespace CatalogSearch

namespace Decode

variable {α : Type} {decode : Decoder α}

/-- A list is decoded from its encoded items if each item is. -/
theorem items_map {encode : α → Json} {values : List α}
    (back : ∀ value ∈ values, decode (encode value) = .ok value) :
    items decode (values.map encode) = .ok values := by
  induction values with
  | nil => rfl
  | cons first rest ih =>
      have later := ih fun value member => back value (List.mem_cons_of_mem first member)
      rw [List.map_cons, items, back first List.mem_cons_self, later]
      rfl

theorem string_string (text : String) : string (.string text) = .ok text :=
  rfl

theorem boolean_bool (flag : Bool) : boolean (.bool flag) = .ok flag :=
  rfl

/-- A natural number below the bound is decoded from the integer that it is. -/
theorem natural_integer {value bound : Nat} (within : value < bound) (expected : Expectation)
    {inRange : -9223372036854775808 ≤ (value : Int) ∧ (value : Int) < 18446744073709551616} :
    natural bound expected (.number (.integer value inRange)) = .ok value := by
  rw [natural, if_pos (by omega), Int.toNat_natCast]

/-- A list is decoded from the written forms of its elements. -/
theorem list_map {encode : α → Json} {values : List α}
    (back : ∀ value ∈ values, decode (encode value) = .ok value) :
    list decode (.array (values.map encode)) = .ok values :=
  items_map back

theorem list_ofStrings (texts : List String) : list string (.ofStrings texts) = .ok texts :=
  list_map fun text _ => string_string text

theorem bind_eq_ok {ε β γ : Type} {first : Except ε β} {next : β → Except ε γ} {result : γ} :
    (first >>= next) = .ok result ↔ ∃ value, first = .ok value ∧ next value = .ok result := by
  cases first <;> simp [bind, Except.bind]

/-- Every item that has been decoded has a value from which it was. -/
theorem exists_json_of_items {jsons : List Json} {values : List α}
    (decoded : items decode jsons = .ok values) :
    ∀ value ∈ values, ∃ json, decode json = .ok value := by
  induction jsons generalizing values with
  | nil =>
      cases decoded
      exact fun _ member => absurd member List.not_mem_nil
  | cons json rest ih =>
      simp only [items, bind_eq_ok, Except.ok.injEq] at decoded
      obtain ⟨result, first, results, later, rfl⟩ := decoded
      intro value member
      rcases List.mem_cons.mp member with rfl | inside
      · exact ⟨json, first⟩
      · exact ih later value inside

/-- Every item of a decoded list has been decoded. -/
theorem exists_json_of_list {json : Json} {values : List α}
    (decoded : list decode json = .ok values) :
    ∀ value ∈ values, ∃ json, decode json = .ok value := by
  unfold list at decoded
  split at decoded
  · exact exists_json_of_items decoded
  · cases decoded

/-- A value that is decoded and is not null is decoded as something. -/
theorem optional_of_ok {json : Json} {value : α} (content : json ≠ .null)
    (decoded : decode json = .ok value) : optional decode json = .ok (some value) := by
  rw [optional.eq_2 decode json content, decoded]
  rfl

end Decode

namespace Record

variable {α β : Type}

/-- Whether a group of fields is read from members, wherever it stands among the fields. -/
def Reads (record : Record α) (members : List (String × Json)) (value : α) : Prop :=
  ∀ position, record.read position (.members members) = .ok value

section Writing

variable {members : List (String × Json)} {name : String} {decode : Decoder α} {value : α}

theorem reads_done : (done value).Reads members value :=
  fun _ => rfl

/-- A function and its argument are read together. -/
theorem Reads.andThen {first : Record (α → β)} {second : Record α} {function : α → β}
    (applied : first.Reads members function) (argument : second.Reads members value) :
    (first.andThen second).Reads members (function value) := by
  intro position
  change combine (first.read position _) (second.read _ _) = _
  rw [applied position, argument]
  rfl

/-- A key that no member has does not occur. -/
theorem occurrences_of_lookup_eq_none (absent : members.lookup name = none) (position : Nat) :
    occurrences name position members = [] := by
  induction members generalizing position with
  | nil => rfl
  | cons member rest ih =>
      obtain ⟨key, json⟩ := member
      rw [KeyOrder.lookup_cons] at absent
      split at absent
      · cases absent
      · rename_i other
        rw [occurrences, if_neg fun same => other same.symm, ih absent]

/-- Among members with different keys, a field occurs once. -/
theorem exists_occurrence_of_lookup (distinct : (members.map Prod.fst).Nodup) {json : Json}
    (held : members.lookup name = some json) (position : Nat) :
    ∃ place, occurrences name position members = [(place, json)] := by
  induction members generalizing position with
  | nil => cases held
  | cons member rest ih =>
      obtain ⟨key, present⟩ := member
      have ⟨absent, tail⟩ := List.nodup_cons.mp distinct
      rw [KeyOrder.lookup_cons] at held
      split at held
      · rename_i same
        subst same
        cases held
        have later : rest.lookup name = none := List.lookup_eq_none_iff.mpr fun other member => by
          rw [bne_iff_ne]
          exact fun equal => absent (List.mem_map.mpr ⟨other, member, equal.symm⟩)
        exact ⟨position, by
          rw [occurrences, if_pos rfl, occurrences_of_lookup_eq_none later]⟩
      · rename_i other
        rw [occurrences, if_neg fun same => other same.symm]
        exact ih tail held (position + 1)

/-- A field is read from the only member with its name. -/
theorem reads_fieldOr (distinct : (members.map Prod.fst).Nodup) {json : Json}
    (held : members.lookup name = some json) (decoded : decode json = .ok value)
    (fallback : Option α) : (fieldOr name fallback decode).Reads members value := by
  intro position
  obtain ⟨place, once⟩ := exists_occurrence_of_lookup distinct held 0
  simp only [fieldOr, once, readOccurrences, decoded]

/-- A field that is left out is read as the value that it has then. -/
theorem reads_fieldOr_of_absent (absent : members.lookup name = none) :
    (fieldOr name (some value) decode).Reads members value := by
  intro position
  simp only [fieldOr, occurrences_of_lookup_eq_none absent, readOccurrences]

/-- A member that is written if there is a value is found under its own name. -/
theorem lookup_written {α : Type} (name key : String) (encode : α → Json) (part : Option α) :
    (part.map fun value => (name, encode value)).toList.lookup key =
      if key = name then part.map encode else none := by
  cases part with
  | none => simp
  | some value => rw [Option.map_some, Option.toList_some, KeyOrder.lookup_cons, List.lookup_nil,
      Option.map_some]

/-- A field that may be left out is read as what is written under its name, if anything is. -/
theorem reads_optional (encode : α → Json) {part : Option α}
    (distinct : (members.map Prod.fst).Nodup) (held : members.lookup name = part.map encode)
    (back : ∀ value, part = some value →
      Decode.optional decode (encode value) = .ok (some value)) :
    (optional name decode).Reads members part := by
  cases part with
  | none => exact reads_fieldOr_of_absent held
  | some value => exact reads_fieldOr distinct held (back value rfl) (some none)

/-- An object that has the fields of a record is decoded, a strict one if it has no others. -/
theorem Reads.decode_eq {record : Record α} (reads : record.Reads members value) (label : String)
    {strict : Bool} (known : strict = true → ∀ member ∈ members, member.1 ∈ record.names) :
    record.decode label strict (.object members) = .ok value := by
  have checked : (if strict then unknownMember record.names members else .ok ()) = .ok () := by
    split
    · rename_i strictly
      rw [unknownMember, List.findIdx?_eq_none_iff.mpr]
      exact fun member inside => by simpa using known strictly member inside
    · rfl
  simp only [Record.decode, checked, reads 0]
  rfl

end Writing

section Reading

variable {position : Nat} {parts : RecordParts}

/-- Two results combine to a value exactly if both are values. -/
theorem combine_eq_ok {function : Except Fault (α → β)} {argument : Except Fault α} {result : β} :
    combine function argument = .ok result ↔
      ∃ apply value, function = .ok apply ∧ argument = .ok value ∧ apply value = result := by
  unfold combine
  cases function with
  | ok apply => cases argument <;> simp
  | error first =>
      cases argument with
      | ok value => simp
      | error second => dsimp only; split <;> simp

/-- The fields of a record that is read are read. -/
theorem of_read_andThen {first : Record (α → β)} {second : Record α} {result : β}
    (read : (first.andThen second).read position parts = .ok result) :
    ∃ apply value place, first.read position parts = .ok apply ∧
      second.read place parts = .ok value ∧ apply value = result := by
  obtain ⟨apply, value, applied, argument, same⟩ := combine_eq_ok.mp read
  exact ⟨apply, value, _, applied, argument, same⟩

/-- A field that is read has been decoded, or is left out. -/
theorem of_read_fieldOr {name : String} {fallback : Option α} {decode : Decoder α} {value : α}
    (read : (fieldOr name fallback decode).read position parts = .ok value) :
    fallback = some value ∨ ∃ json, decode json = .ok value := by
  unfold fieldOr at read
  cases parts with
  | members members =>
      dsimp only at read
      unfold readOccurrences at read
      split at read
      · split at read
        · cases read
          exact .inl rfl
        · cases read
      · split at read
        · cases read
        · cases read
        · rename_i decoded _
          cases read
          exact .inr ⟨_, decoded⟩
  | items items =>
      dsimp only at read
      split at read
      · split at read
        · rename_i decoded
          cases read
          exact .inr ⟨_, decoded⟩
        · cases read
      · cases read
        exact .inl rfl
      · cases read

/-- Among members with different keys, a field that may be left out is read from the only member
with its name or has its default. -/
theorem read_fieldOr_members {members : List (String × Json)} {name : String} {fallback value : α}
    {decode : Decoder α} (distinct : (members.map Prod.fst).Nodup) :
    (fieldOr name (some fallback) decode).read position (.members members) = .ok value ↔
      members.lookup name = none ∧ fallback = value ∨
        ∃ json, members.lookup name = some json ∧ decode json = .ok value := by
  cases held : members.lookup name with
  | none =>
      rw [reads_fieldOr_of_absent held position]
      simp
  | some json =>
      obtain ⟨place, once⟩ := exists_occurrence_of_lookup distinct held 0
      simp only [fieldOr, once, readOccurrences]
      cases decoded : decode json <;> simp [decoded]

/-- Reporting a fault leaves a value as it is. -/
theorem report_eq_ok {label : String} {fields : Nat} {result : Except Fault α} {value : α} :
    report label fields result = .ok value ↔ result = .ok value := by
  unfold report
  split <;> simp

/-- No member is unknown exactly if the names of all are known. -/
theorem unknownMember_eq_ok {names : List String} {members : List (String × Json)} :
    unknownMember names members = .ok () ↔ ∀ member ∈ members, member.1 ∈ names := by
  unfold unknownMember
  split
  · rename_i known
    rw [List.findIdx?_eq_none_iff] at known
    exact ⟨fun _ member inside => by simpa using known member inside, fun _ => rfl⟩
  · rename_i place unknown
    obtain ⟨inside, other, -⟩ := List.findIdx?_eq_some_iff_getElem.mp unknown
    refine ⟨nofun, fun known => ?_⟩
    have := known _ (List.getElem_mem inside)
    simp_all

/-- A strict record is decoded from members that are all fields and from which it is read. -/
theorem decode_members_eq_ok {record : Record α} {label : String} {members : List (String × Json)}
    {value : α} : record.decode label true (.object members) = .ok value ↔
      (∀ member ∈ members, member.1 ∈ record.names) ∧
        record.read 0 (.members members) = .ok value := by
  rw [← unknownMember_eq_ok, Record.decode, report_eq_ok, combine_eq_ok, if_pos rfl]
  cases unknownMember record.names members <;> simp [Except.map]

/-- What is decoded has been read from members or items. -/
theorem exists_read_of_decode {record : Record α} {label : String} {strict : Bool} {json : Json}
    {value : α} (decoded : record.decode label strict json = .ok value) :
    ∃ parts, record.read 0 parts = .ok value := by
  unfold Record.decode at decoded
  split at decoded
  · obtain ⟨apply, result, applied, fields, same⟩ := combine_eq_ok.mp (report_eq_ok.mp decoded)
    have identity : apply = fun value => value := by
      split at applied
      · cases checked : unknownMember record.names _ with
        | ok _ => rw [checked] at applied; cases applied; rfl
        | error fault => rw [checked] at applied; cases applied
      · cases applied
        rfl
    subst identity same
    exact ⟨_, fields⟩
  · obtain ⟨result, read, complete⟩ := Decode.bind_eq_ok.mp decoded
    split at complete <;> cases complete
    exact ⟨_, report_eq_ok.mp read⟩
  · cases decoded

/-- A decoded record with two fields is made of them. -/
theorem of_decode_pair {γ : Type} {make : α → β → γ} {first : Record α} {second : Record β}
    {label : String} {strict : Bool} {json : Json} {result : γ}
    (decoded : (((done make).andThen first).andThen second).decode label strict json = .ok result) :
    ∃ value other place, (∃ parts, second.read place parts = .ok other) ∧
      make value other = result := by
  obtain ⟨parts, read⟩ := exists_read_of_decode decoded
  obtain ⟨apply, other, place, applied, given, rfl⟩ := of_read_andThen read
  obtain ⟨_, value, _, made, _, rfl⟩ := of_read_andThen applied
  cases made
  exact ⟨value, other, place, ⟨parts, given⟩, rfl⟩

end Reading

end Record

end CatalogSearch
