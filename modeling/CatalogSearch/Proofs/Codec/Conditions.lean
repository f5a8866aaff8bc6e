import CatalogSearch.Proofs.Codec.Queries
import CatalogSearch.Proofs.Json.Grammar
import Mathlib.Data.List.Forall2

/-!
# The grammar of predicates

Which values are field conditions, and which condition each of them is, member by member of the
written value (`FieldCondition.Denotes`). The decoder accepts these values and no others
(`FieldCondition.ofJson_eq_ok`). A text is read as a predicate if it is written for an object all of
whose members have such values, unless more than 127 arrays and objects lie within each other
(`Predicate.parse_eq_ok_iff`).
-/

namespace CatalogSearch

namespace Json

/-- The last value of a key. -/
def last? (name : String) (members : List (String × Json)) : Option Json :=
  members.reverse.lookup name

end Json

namespace MatchOptions

/-- What the value of a part denotes, if there is one: null is no part, and a part is a text or a
list of texts. -/
inductive Part : Option Json → Option Texts → Prop where
  | absent : Part none none
  | null : Part (some .null) none
  | one (text : String) : Part (some (.string text)) (some (.one text))
  | many (texts : List String) : Part (some (.ofStrings texts)) (some (.many texts))

end MatchOptions

namespace FieldCondition

/-- The condition that a value denotes. Of the members with one key only the last counts, and a
range may have further members. -/
inductive Denotes : Json → FieldCondition → Prop where
  | flag (value : Bool) : Denotes (.bool value) (.flag value)
  | number (value : Number) : Denotes (.number value) (.number value)
  | text (value : String) : Denotes (.string value) (.text value)
  | list (texts : List String) : Denotes (.ofStrings texts) (.list texts)
  | range {members : List (String × Json)} {earliest latest : Number}
      (type : Json.last? "type" members = some (.string "date-range"))
      (first : Json.last? "from" members = some (.number earliest))
      (last : Json.last? "to" members = some (.number latest)) :
      Denotes (.object members) (.range ⟨earliest.toInt64, latest.toInt64⟩)
  | relative {members : List (String × Json)} {unit : TimeUnit} {count : Int64}
      (type : Json.last? "type" members = some (.string "relative-date"))
      (named : Json.last? "unit" members = some (.string unit.name))
      (counted : Json.last? "num" members = some (.number (.ofInt64 count))) :
      Denotes (.object members) (.relative ⟨unit, count⟩)
  | options {members : List (String × Json)} {options : MatchOptions}
      (known : ∀ member ∈ members, member.1 ∈ ["any", "all", "not", "exact"])
      (any : MatchOptions.Part (Json.last? "any" members) options.any)
      (all : MatchOptions.Part (Json.last? "all" members) options.all)
      (not : MatchOptions.Part (Json.last? "not" members) options.not)
      (exact : MatchOptions.Part (Json.last? "exact" members) options.exact)
      (content : options ≠ .empty) :
      Denotes (.object members) (.options options)

end FieldCondition

namespace Json

variable {json : Json} {text : String}

theorem canonical_eq_null : json.canonical = .null ↔ json = .null := by
  cases json <;> simp [canonical]

theorem canonical_eq_string : json.canonical = .string text ↔ json = .string text := by
  cases json <;> simp [canonical]

theorem canonical_eq_number {value : Number} :
    json.canonical = .number value ↔ json = .number value := by
  cases json <;> simp [canonical]

/-- Only strings have strings as their canonical forms. -/
theorem canonicalItems_eq_strings {items : List Json} {texts : List String} :
    canonicalItems items = texts.map .string ↔ items = texts.map .string := by
  induction items generalizing texts with
  | nil => simp [canonicalItems]
  | cons item rest ih =>
      cases texts with
      | nil => simp [canonicalItems]
      | cons text others => simp [canonicalItems, canonical_eq_string, ih]

/-- Only an array of strings has itself as its canonical form. -/
theorem canonical_eq_ofStrings {texts : List String} :
    json.canonical = ofStrings texts ↔ json = ofStrings texts := by
  cases json <;> simp [canonical, ofStrings, canonicalItems_eq_strings]

theorem asString?_eq_some : json.asString? = some text ↔ json = .string text := by
  cases json <;> simp [asString?]

theorem asNumber?_eq_some {value : Number} :
    json.asNumber? = some value ↔ json = .number value := by
  cases json <;> simp [asNumber?]

theorem canonicalMembers_eq_map (members : List (String × Json)) :
    canonicalMembers members = members.map fun member => (member.1, member.2.canonical) := by
  induction members with
  | nil => rfl
  | cons member rest ih =>
      obtain ⟨key, value⟩ := member
      rw [canonicalMembers, ih, List.map_cons]

/-- The members of an object in canonical form. -/
def ordered (members : List (String × Json)) : List (String × Json) :=
  KeyOrder.sort (canonicalMembers members)

theorem nodup_keys_ordered (members : List (String × Json)) :
    ((ordered members).map Prod.fst).Nodup :=
  KeyOrder.nodup_keys_of_ascends (KeyOrder.ascends_sort _)

/-- In canonical form a key has the canonical form of its last value. -/
theorem lookup_ordered (name : String) (members : List (String × Json)) :
    (ordered members).lookup name = (last? name members).map canonical := by
  rw [ordered, KeyOrder.lookup_sort_reverse, canonicalMembers_eq_map, ← List.map_reverse, last?]
  induction members.reverse with
  | nil => rfl
  | cons member rest ih =>
      obtain ⟨key, value⟩ := member
      rw [List.map_cons, KeyOrder.lookup_cons, KeyOrder.lookup_cons, ih]
      split <;> rfl

/-- In canonical form an object has the keys that it is written with. -/
theorem mem_keys_ordered {name : String} {members : List (String × Json)} :
    name ∈ (ordered members).map Prod.fst ↔ name ∈ members.map Prod.fst := by
  rw [ordered, KeyOrder.mem_keys_sort, canonicalMembers_eq_map, List.map_map]
  rfl

/-- In canonical form a key has a value that is canonical by nature exactly if that is its last
value. -/
theorem lookup_ordered_eq_some {name : String} {members : List (String × Json)} {value : Json}
    (plain : ∀ json : Json, json.canonical = value ↔ json = value) :
    (ordered members).lookup name = some value ↔ last? name members = some value := by
  simp only [lookup_ordered, Option.map_eq_some_iff, plain]
  exact exists_eq_right

end Json

namespace Decode

/-- Items are decoded as strings exactly if they are strings. -/
theorem items_string_eq_ok {jsons : List Json} {texts : List String} :
    items string jsons = .ok texts ↔ jsons = texts.map .string := by
  refine ⟨fun decoded => ?_, fun same => same ▸ list_ofStrings texts⟩
  induction jsons generalizing texts with
  | nil =>
      cases decoded
      rfl
  | cons json rest ih =>
      simp only [items, bind_eq_ok, Except.ok.injEq] at decoded
      obtain ⟨text, first, others, later, rfl⟩ := decoded
      rw [List.map_cons, ← ih later]
      cases json <;> cases first
      rfl

theorem map_eq_ok {ε α β : Type} {result : Except ε α} {change : α → β} {value : β} :
    result.map change = .ok value ↔ ∃ found, result = .ok found ∧ change found = value := by
  cases result <;> simp [Except.map]

end Decode

/-- Texts are decoded exactly from their written form. -/
theorem Texts.decode_eq_ok {json : Json} {texts : Texts} :
    decode json = .ok texts ↔ json = texts.toJson := by
  refine ⟨fun decoded => ?_, fun same => same ▸ decode_toJson texts⟩
  unfold decode at decoded
  split at decoded
  · cases decoded
    rfl
  · split at decoded
    · rename_i read
      cases decoded
      exact congrArg Json.array (Decode.items_string_eq_ok.mp read)
    · cases decoded
  · cases decoded

namespace MatchOptions

/-- A part is absent, or it is decoded from what is written for it. -/
theorem part_iff {value : Option Json} {part : Option Texts} : Part value part ↔
    value = none ∧ none = part ∨
      ∃ json, value = some json ∧ Decode.optional Texts.decode json = .ok part := by
  constructor
  · intro denoted
    cases denoted with
    | absent => exact .inl ⟨rfl, rfl⟩
    | null => exact .inr ⟨.null, rfl, rfl⟩
    | one text => exact .inr ⟨_, rfl, Texts.optional_toJson (.one text)⟩
    | many texts => exact .inr ⟨_, rfl, Texts.optional_toJson (.many texts)⟩
  · rintro (⟨rfl, rfl⟩ | ⟨json, rfl, decoded⟩)
    · exact .absent
    · unfold Decode.optional at decoded
      split at decoded
      · cases decoded
        exact .null
      · cases read : Texts.decode _ with
        | error cause => rw [read] at decoded; cases decoded
        | ok texts =>
            rw [read] at decoded
            cases decoded
            cases Texts.decode_eq_ok.mp read
            cases texts with
            | one text => exact .one text
            | many texts => exact .many texts

/-- A part is the same in canonical form. -/
theorem part_map_canonical {value : Option Json} {part : Option Texts} :
    Part (value.map Json.canonical) part ↔ Part value part := by
  cases value with
  | none => rfl
  | some json =>
      constructor
      · intro denoted
        rw [Option.map_some] at denoted
        generalize same : json.canonical = written at denoted
        cases denoted with
        | null => exact Json.canonical_eq_null.mp same ▸ .null
        | one text => exact Json.canonical_eq_string.mp same ▸ .one text
        | many texts => exact Json.canonical_eq_ofStrings.mp same ▸ .many texts
      · intro denoted
        cases denoted with
        | null => exact .null
        | one text => exact .one text
        | many texts =>
            rw [Option.map_some, Json.canonical_ofStrings]
            exact .many texts

/-- Options have a part unless they are the empty ones. -/
theorem isEmpty_eq_false {options : MatchOptions} : options.isEmpty = false ↔ options ≠ .empty := by
  obtain ⟨any, all, not, exact⟩ := options
  cases any <;> cases all <;> cases not <;> cases exact <;> simp [isEmpty, empty]

/-- Options are decoded from members with different keys that are parts. -/
theorem decode_eq_ok {members : List (String × Json)} (distinct : (members.map Prod.fst).Nodup)
    {options : MatchOptions} : decode (.object members) = .ok options ↔
      (∀ name ∈ members.map Prod.fst, name ∈ partNames) ∧
        Part (members.lookup "any") options.any ∧ Part (members.lookup "all") options.all ∧
        Part (members.lookup "not") options.not ∧
        Part (members.lookup "exact") options.exact := by
  obtain ⟨any, all, not, exact⟩ := options
  have read (name : String) (part : Option Texts) (position : Nat) :
      (Record.optional name Texts.decode).read position (.members members) = .ok part ↔
        Part (members.lookup name) part :=
    (Record.read_fieldOr_members distinct).trans part_iff.symm
  have fields : record.read 0 (.members members) = .ok ⟨any, all, not, exact⟩ ↔
      Part (members.lookup "any") any ∧ Part (members.lookup "all") all ∧
        Part (members.lookup "not") not ∧ Part (members.lookup "exact") exact := by
    simp only [record, Record.andThen, Record.combine_eq_ok, read]
    constructor
    · rintro ⟨_, _, ⟨_, _, ⟨_, _, ⟨_, _, made, first, rfl⟩, second, rfl⟩, third, rfl⟩, fourth, same⟩
      cases made
      cases same
      exact ⟨first, second, third, fourth⟩
    · rintro ⟨first, second, third, fourth⟩
      exact ⟨_, _, ⟨_, _, ⟨_, _, ⟨_, _, rfl, first, rfl⟩, second, rfl⟩, third, rfl⟩, fourth, rfl⟩
  rw [decode, Record.decode_members_eq_ok, fields, List.forall_mem_map]
  rfl

end MatchOptions

/-- A unit is found exactly by its name. -/
theorem TimeUnit.ofName?_eq_some {name : String} {unit : TimeUnit} :
    ofName? name = some unit ↔ name = unit.name := by
  refine ⟨fun found => ?_, fun same => same ▸ ofName?_name unit⟩
  simp only [ofName?, named, KeyOrder.lookup_cons] at found
  repeat' split at found
  all_goals cases found
  all_goals assumption

/-- Only an integer of 64 bits with a sign is a word. -/
theorem Number.toInt64?_eq_some {value : Number} {word : Int64} :
    value.toInt64? = some word ↔ value = ofInt64 word := by
  refine ⟨fun read => ?_, fun same => same ▸ toInt64?_ofInt64 word⟩
  cases value with
  | double value => cases read
  | integer value inRange =>
      rw [toInt64?] at read
      split at read
      · rename_i short
        cases read
        have same := Int64.toInt_ofInt_of_le inRange.1 (by omega)
        simp only [ofInt64, same]
      · cases read

namespace FieldCondition

/-- Items are the texts of a list exactly if they are strings. -/
theorem listTexts_eq_ok {items : List Json} {texts : List String} :
    listTexts items = .ok texts ↔ items = texts.map .string := by
  refine ⟨fun read => ?_, fun same => same ▸ listTexts_strings texts⟩
  induction items generalizing texts with
  | nil =>
      cases read
      rfl
  | cons item rest ih =>
      cases item <;> try cases read
      rename_i text
      rw [listTexts] at read
      cases later : listTexts rest with
      | error cause => rw [later] at read; cases read
      | ok others =>
          rw [later] at read
          cases read
          rw [ih later, List.map_cons]

section Members

variable {members : List (String × Json)}

/-- The number of a member is its last value, if that is a number. -/
theorem number_of_ordered {name : String} {value : Number} :
    ((Json.ordered members).lookup name).bind Json.asNumber? = some value ↔
      Json.last? name members = some (.number value) := by
  simp only [Option.bind_eq_some_iff, Json.asNumber?_eq_some, exists_eq_right]
  exact Json.lookup_ordered_eq_some fun _ => Json.canonical_eq_number

/-- The text of a member is its last value, if that is a string. -/
theorem string_of_ordered {name text : String} :
    ((Json.ordered members).lookup name).bind Json.asString? = some text ↔
      Json.last? name members = some (.string text) := by
  simp only [Option.bind_eq_some_iff, Json.asString?_eq_some, exists_eq_right]
  exact Json.lookup_ordered_eq_some fun _ => Json.canonical_eq_string

/-- An end of a range is any number, cut to a word. -/
theorem bound_eq_ok {name : String} {word : Int64} :
    bound name (Json.ordered members) = .ok word ↔
      ∃ value, Json.last? name members = some (.number value) ∧ value.toInt64 = word := by
  simp only [← number_of_ordered, bound]
  cases ((Json.ordered members).lookup name).bind Json.asNumber? <;> simp

/-- Members are read as a range exactly if both ends are numbers. -/
theorem rangeOfMembers_eq_ok {range : DateRange} :
    rangeOfMembers (Json.ordered members) = .ok range ↔
      ∃ earliest latest, Json.last? "from" members = some (.number earliest) ∧
        Json.last? "to" members = some (.number latest) ∧
        ⟨earliest.toInt64, latest.toInt64⟩ = range := by
  simp only [rangeOfMembers, Decode.bind_eq_ok, bound_eq_ok, Except.ok.injEq]
  constructor
  · rintro ⟨_, ⟨earliest, first, rfl⟩, _, ⟨latest, last, rfl⟩, rfl⟩
    exact ⟨earliest, latest, first, last, rfl⟩
  · rintro ⟨earliest, latest, first, last, rfl⟩
    exact ⟨_, ⟨earliest, first, rfl⟩, _, ⟨latest, last, rfl⟩, rfl⟩

/-- Members are read as a relative date exactly if they name a unit and count in words. -/
theorem relativeOfMembers_eq_ok {relative : RelativeDate} :
    relativeOfMembers (Json.ordered members) = .ok relative ↔
      Json.last? "unit" members = some (.string relative.unit.name) ∧
        Json.last? "num" members = some (.number (.ofInt64 relative.count)) := by
  obtain ⟨unit, count⟩ := relative
  have named : (((Json.ordered members).lookup "unit").bind Json.asString?).bind
      TimeUnit.ofName? = some unit ↔ Json.last? "unit" members = some (.string unit.name) := by
    rw [Option.bind_eq_some_iff]
    simp only [string_of_ordered, TimeUnit.ofName?_eq_some, exists_eq_right]
  have counted : (((Json.ordered members).lookup "num").bind Json.asNumber?).bind
      Number.toInt64? = some count ↔
        Json.last? "num" members = some (.number (.ofInt64 count)) := by
    rw [Option.bind_eq_some_iff]
    simp only [number_of_ordered, Number.toInt64?_eq_some, exists_eq_right]
  rw [← named, ← counted, relativeOfMembers]
  cases (((Json.ordered members).lookup "unit").bind Json.asString?).bind TimeUnit.ofName? with
  | none => simp
  | some =>
      cases (((Json.ordered members).lookup "num").bind Json.asNumber?).bind Number.toInt64? <;>
        simp

/-- Members are read as options exactly if all of them are parts and one of them is present. -/
theorem optionsOfMembers_eq_ok {options : MatchOptions} :
    optionsOfMembers (Json.ordered members) = .ok options ↔
      (∀ member ∈ members, member.1 ∈ MatchOptions.partNames) ∧
        (MatchOptions.Part (Json.last? "any" members) options.any ∧
          MatchOptions.Part (Json.last? "all" members) options.all ∧
          MatchOptions.Part (Json.last? "not" members) options.not ∧
          MatchOptions.Part (Json.last? "exact" members) options.exact) ∧
        options ≠ .empty := by
  have known : (∀ name ∈ (Json.ordered members).map Prod.fst, name ∈ MatchOptions.partNames) ↔
      ∀ member ∈ members, member.1 ∈ MatchOptions.partNames := by
    simp only [Json.mem_keys_ordered, List.forall_mem_map]
  have decoded (options : MatchOptions) :=
    @MatchOptions.decode_eq_ok _ (Json.nodup_keys_ordered members) options
  simp only [known, Json.lookup_ordered, MatchOptions.part_map_canonical] at decoded
  rw [← and_assoc, ← decoded, ← MatchOptions.isEmpty_eq_false, optionsOfMembers]
  cases MatchOptions.decode (.object (Json.ordered members)) with
  | error => simp
  | ok found =>
      cases content : found.isEmpty <;> grind

end Members

/-- The grammar decides by the same member as the decoder which kind of condition an object is. -/
theorem ofCanonical_ordered_eq_ok {members : List (String × Json)} {condition : FieldCondition} :
    ofCanonical (.object (Json.ordered members)) = .ok condition ↔
      Denotes (.object members) condition := by
  rw [ofCanonical]
  constructor
  · intro read
    split at read
    · rename_i type
      obtain ⟨range, found, rfl⟩ := Decode.map_eq_ok.mp read
      obtain ⟨earliest, latest, first, last, rfl⟩ := rangeOfMembers_eq_ok.mp found
      exact .range (string_of_ordered.mp type) first last
    · rename_i type
      obtain ⟨relative, found, rfl⟩ := Decode.map_eq_ok.mp read
      obtain ⟨named, counted⟩ := relativeOfMembers_eq_ok.mp found
      exact .relative (string_of_ordered.mp type) named counted
    · obtain ⟨options, found, rfl⟩ := Decode.map_eq_ok.mp read
      obtain ⟨known, ⟨any, all, not, exact⟩, content⟩ := optionsOfMembers_eq_ok.mp found
      exact .options known any all not exact content
  · intro denoted
    cases denoted with
    | range type first last =>
        rw [string_of_ordered.mpr type]
        exact Decode.map_eq_ok.mpr
          ⟨_, rangeOfMembers_eq_ok.mpr ⟨_, _, first, last, rfl⟩, rfl⟩
    | relative type named counted =>
        rw [string_of_ordered.mpr type]
        exact Decode.map_eq_ok.mpr ⟨_, relativeOfMembers_eq_ok.mpr ⟨named, counted⟩, rfl⟩
    | options known any all not exact content =>
        have untyped : (Json.ordered members).lookup "type" = none :=
          List.lookup_eq_none_iff.mpr fun member inside => by
            rw [bne_iff_ne]
            intro type
            have key := Json.mem_keys_ordered.mp (List.mem_map_of_mem (f := Prod.fst) inside)
            obtain ⟨given, inside, same⟩ := List.mem_map.mp key
            exact absurd (type.trans same.symm ▸ known given inside) (by decide)
        rw [untyped]
        exact Decode.map_eq_ok.mpr
          ⟨_, optionsOfMembers_eq_ok.mpr ⟨known, ⟨any, all, not, exact⟩, content⟩, rfl⟩

/-- **The decoder of field conditions accepts exactly its grammar.** -/
theorem ofJson_eq_ok {json : Json} {condition : FieldCondition} :
    ofJson json = .ok condition ↔ Denotes json condition := by
  unfold ofJson
  cases json with
  | object members => exact ofCanonical_ordered_eq_ok
  | array items =>
      rw [Json.canonical, ofCanonical, Decode.map_eq_ok]
      simp only [listTexts_eq_ok, Json.canonicalItems_eq_strings]
      constructor
      · rintro ⟨texts, rfl, rfl⟩
        exact .list texts
      · intro denoted
        cases denoted with
        | list texts => exact ⟨texts, rfl, rfl⟩
  | null =>
      refine ⟨fun read => ?_, fun denoted => ?_⟩
      · cases read
      · cases denoted
  | bool flag =>
      refine ⟨fun read => ?_, fun denoted => ?_⟩
      · cases read
        exact .flag flag
      · cases denoted
        rfl
  | number value =>
      refine ⟨fun read => ?_, fun denoted => ?_⟩
      · cases read
        exact .number value
      · cases denoted
        rfl
  | string text =>
      refine ⟨fun read => ?_, fun denoted => ?_⟩
      · cases read
        exact .text text
      · cases denoted
        rfl

/-- A condition is decoded exactly from a value that denotes it. -/
theorem decode_eq_ok {json : Json} {condition : FieldCondition} :
    decode json = .ok condition ↔ Denotes json condition := by
  rw [← ofJson_eq_ok, decode]
  cases ofJson json <;> simp

end FieldCondition

namespace Predicate

/-- Whether a predicate has the fields of some members in the order in which they first occur, each
with the condition that its last value denotes. -/
structure IsDenotedBy (predicate : Predicate) (members : List (String × Json)) : Prop where
  order : predicate.fields = (members.map Prod.fst).eraseDups
  held : ∀ field value, Json.last? field members = some value →
    ∃ condition, predicate.get? field = some condition ∧ FieldCondition.Denotes value condition

/-- Whether the value of every member denotes a condition, even if a later member replaces it. -/
def AllDenote (members : List (String × Json)) : Prop :=
  ∀ member ∈ members, ∃ condition, FieldCondition.Denotes member.2 condition

/-- Whether entries are members with the conditions that their values denote. -/
def EntriesDenoted : List (String × Json) → FieldEntries → Prop :=
  List.Forall₂ fun member entry => member.1 = entry.1 ∧ FieldCondition.Denotes member.2 entry.2

/-- Members are decoded exactly as the entries with the conditions that their values denote. -/
theorem decodeMembers_eq_ok {members : List (String × Json)} {entries : FieldEntries} :
    decodeMembers members = .ok entries ↔ EntriesDenoted members entries := by
  unfold EntriesDenoted
  induction members generalizing entries with
  | nil =>
      rw [List.forall₂_nil_left_iff, decodeMembers, Except.ok.injEq]
      exact eq_comm
  | cons member rest ih =>
      obtain ⟨field, value⟩ := member
      simp only [decodeMembers, Decode.bind_eq_ok, FieldCondition.decode_eq_ok, ih, Except.ok.injEq,
        List.forall₂_cons_left_iff]
      constructor
      · rintro ⟨condition, denoted, others, later, rfl⟩
        exact ⟨(field, condition), others, ⟨rfl, denoted⟩, later, rfl⟩
      · rintro ⟨⟨_, condition⟩, others, ⟨rfl, denoted⟩, later, rfl⟩
        exact ⟨condition, denoted, others, later, rfl⟩

/-- Members are decoded exactly if all their values denote conditions. -/
theorem exists_decodeMembers {members : List (String × Json)} :
    (∃ entries, decodeMembers members = .ok entries) ↔ AllDenote members := by
  induction members with
  | nil => exact ⟨fun _ _ inside => absurd inside List.not_mem_nil, fun _ => ⟨[], rfl⟩⟩
  | cons member rest ih =>
      obtain ⟨field, value⟩ := member
      simp only [decodeMembers, Decode.bind_eq_ok, FieldCondition.decode_eq_ok, Except.ok.injEq]
      rw [AllDenote, List.forall_mem_cons, ← AllDenote, ← ih]
      constructor
      · rintro ⟨_, condition, denoted, others, later, _⟩
        exact ⟨⟨condition, denoted⟩, others, later⟩
      · rintro ⟨⟨condition, denoted⟩, others, later⟩
        exact ⟨_, condition, denoted, others, later, rfl⟩

/-- Setting fields one after the other adds each that is absent where it first occurs. -/
theorem fields_insertAll (predicate : Predicate) (entries : FieldEntries) :
    (predicate.insertAll entries).fields = predicate.fields ++
      (entries.names.filter fun name => name ∉ predicate.fields).eraseDups := by
  induction entries generalizing predicate with
  | nil => exact (List.append_nil _).symm
  | cons entry rest ih =>
      obtain ⟨field, condition⟩ := entry
      have step := ih (predicate.insert field condition)
      rw [fields_insert] at step
      have names : FieldEntries.names ((field, condition) :: rest) =
        field :: FieldEntries.names rest := rfl
      refine Eq.trans step ?_
      rw [names]
      by_cases present : field ∈ predicate.fields
      · rw [if_pos present, List.filter_cons_of_neg (by simpa using present)]
      · have kept : (fun name => decide (name ∉ predicate.fields ++ [field])) =
            fun name => (!name == field) && decide (name ∉ predicate.fields) := by
          funext name
          rw [Bool.eq_iff_iff]
          simp [and_comm]
        rw [if_neg present, List.filter_cons_of_pos (by simpa using present), List.eraseDups_cons,
          List.append_assoc, List.singleton_append, List.filter_filter, kept]

/-- The last entry for a field counts. -/
theorem get?_insertAll (predicate : Predicate) (entries : FieldEntries) (field : String) :
    (predicate.insertAll entries).get? field =
      (entries.reverse.lookup field).or (predicate.get? field) := by
  induction entries generalizing predicate with
  | nil => rfl
  | cons entry rest ih =>
      obtain ⟨name, condition⟩ := entry
      have step : (predicate.insertAll ((name, condition) :: rest)).get? field =
          (rest.reverse.lookup field).or ((predicate.insert name condition).get? field) := ih _
      rw [step, get?_insert, List.reverse_cons, List.lookup_append, KeyOrder.lookup_cons,
        Option.or_assoc]
      split <;> rfl

section EntriesDenoted

variable {members : List (String × Json)} {entries : FieldEntries}
  (denoted : EntriesDenoted members entries)

include denoted

/-- The entries have the keys of the members. -/
theorem names_of_entriesDenoted : entries.names = members.map Prod.fst := by
  induction denoted with
  | nil => rfl
  | cons same _ ih => exact congrArg₂ List.cons same.1.symm ih

/-- The condition of an entry is denoted by the value of its member. -/
theorem lookup_of_entriesDenoted {field : String} {value : Json}
    (held : members.lookup field = some value) :
    ∃ condition, entries.lookup field = some condition ∧
      FieldCondition.Denotes value condition := by
  induction denoted with
  | nil => cases held
  | @cons member entry _ _ same _ ih =>
      obtain ⟨name, json⟩ := member
      obtain ⟨_, condition⟩ := entry
      obtain ⟨rfl, first⟩ := same
      rw [KeyOrder.lookup_cons] at held ⊢
      split
      · rw [if_pos ‹_›] at held
        cases held
        exact ⟨condition, rfl, first⟩
      · rw [if_neg ‹_›] at held
        exact ih held

/-- A predicate of entries is the one that their members denote. -/
theorem isDenotedBy_ofEntries : (ofEntries entries).IsDenotedBy members where
  order := by
    have all : (entries.names.filter fun name => name ∉ empty.fields) = entries.names :=
      List.filter_eq_self.mpr fun _ _ => rfl
    rw [ofEntries, fields_insertAll, all, names_of_entriesDenoted denoted]
    rfl
  held field value last := by
    have backwards : EntriesDenoted members.reverse entries.reverse :=
      List.forall₂_reverse_iff.mpr denoted
    obtain ⟨condition, held, means⟩ := lookup_of_entriesDenoted backwards last
    refine ⟨condition, ?_, means⟩
    rw [ofEntries, get?_insertAll, held, Option.some_or]

end EntriesDenoted

/-- A predicate is decoded exactly from an object whose members are all decoded. -/
theorem decode_eq_ok {json : Json} {predicate : Predicate} : decode json = .ok predicate ↔
    ∃ members entries, json = .object members ∧ decodeMembers members = .ok entries ∧
      ofEntries entries = predicate := by
  cases json with
  | object members =>
      have decoded : decode (.object members) = (decodeMembers members).map ofEntries := rfl
      simp [decoded, Decode.map_eq_ok]
  | _ => exact ⟨nofun, nofun⟩

/-- A text is read as a predicate exactly if its value is decoded. -/
theorem parse_eq_ok {text : String} {predicate : Predicate} : parse text = .ok predicate ↔
    ∃ json, Json.parse? text = some json ∧ decode json = .ok predicate := by
  rw [parse]
  cases Json.parse? text with
  | none => exact ⟨nofun, nofun⟩
  | some json => cases decoded : decode json <;> simp [decoded]

/-- Every refusal that can be worded is worded as that of an invalid predicate. -/
theorem ParseError.message_starts {error : ParseError} {message : String}
    (known : error.message? = some message) :
    "Invalid predicate: ".toList <+: message.toList := by
  cases error with
  | notJson => cases known
  | refused cause =>
      cases known
      rw [String.toList_append]
      exact List.prefix_append _ _

/-- The members of a text are those of the object that it is written for, unless too many arrays and
objects lie within each other. -/
theorem parse_eq_ok_iff {text : String} {predicate : Predicate} : parse text = .ok predicate ↔
    ∃ members entries, (Json.object members).IsWrittenAs text ∧
      (Json.object members).depth ≤ 127 ∧ decodeMembers members = .ok entries ∧
        ofEntries entries = predicate := by
  simp only [parse_eq_ok, decode_eq_ok, Json.parse?_eq_some_iff, Json.maximalDepth]
  constructor
  · rintro ⟨_, ⟨written, shallow⟩, members, entries, rfl, decoded, same⟩
    exact ⟨members, entries, written, shallow, decoded, same⟩
  · rintro ⟨members, entries, written, shallow, decoded, same⟩
    exact ⟨_, ⟨written, shallow⟩, members, entries, rfl, decoded, same⟩

/-- A text with a string or a number without a value is not read. -/
theorem parse_of_unvalued {text : String} {lexemes : List Lexeme}
    (spells : Lexeme.Spells lexemes text.toList) (unvalued : lexemes.all Lexeme.isToken = false) :
    parse text = .error .notJson := by
  have unread : Json.parse? text = none := by
    rw [Json.parse?, spells.all?_eq, Option.bind_eq_bind, Option.bind_some, unvalued]
    rfl
  rw [parse, unread]

/-- A date range with a member that it ignores, in which 126 arrays lie within each other. -/
def deepRange : List (String × Json) :=
  [("d", .object [("type", .string "date-range"), ("from", .number (.ofInt64 0)),
    ("to", .number (.ofInt64 1)), ("x", Json.nested 125)])]

end Predicate

end CatalogSearch
