import CatalogSearch.Proofs.Codec.Records
import CatalogSearch.Query.Basic

/-!
# Queries read back from their written form

The written form of a condition determines it if its number is no double and its options have a
part. Queries all of whose conditions are such are decoded from their written form
(`Query.decode_toJson`), with their fields in order.
-/

namespace CatalogSearch

theorem Json.canonical_ofStrings (texts : List String) :
    (ofStrings texts).canonical = ofStrings texts :=
  canonical_of_isCanonical (isCanonical_ofStrings texts)

namespace Texts

/-- Texts are written in canonical form. -/
theorem canonical_toJson (texts : Texts) : texts.toJson.canonical = texts.toJson := by
  cases texts with
  | one text => rfl
  | many texts => exact Json.canonical_ofStrings texts

/-- Texts are decoded from their written form. -/
theorem decode_toJson (texts : Texts) : decode texts.toJson = .ok texts := by
  cases texts with
  | one text => rfl
  | many texts =>
      have back : Decode.items Decode.string (texts.map .string) = .ok texts :=
        Decode.list_ofStrings texts
      rw [toJson, Json.ofStrings, decode, back]

/-- Texts that are present are decoded as such. -/
theorem optional_toJson (part : Texts) :
    Decode.optional decode part.toJson = .ok (some part) := by
  refine Decode.optional_of_ok ?_ (decode_toJson part)
  cases part <;> exact nofun

end Texts

namespace MatchOptions

/-- The members of the written form of options. -/
def members (options : MatchOptions) : List (String × Json) :=
  partMember "any" options.any ++ partMember "all" options.all ++
    partMember "not" options.not ++ partMember "exact" options.exact

/-- The parts of options are written in canonical form. -/
theorem canonicalMembers_members (options : MatchOptions) :
    Json.canonicalMembers options.members = options.members := by
  obtain ⟨any, all, not, exact⟩ := options
  cases any <;> cases all <;> cases not <;> cases exact <;>
    simp [members, partMember, Json.canonicalMembers, Texts.canonical_toJson]

/-- No part of options is written twice. -/
theorem nodup_keys_members (options : MatchOptions) :
    (options.members.map Prod.fst).Nodup := by
  obtain ⟨any, all, not, exact⟩ := options
  cases any <;> cases all <;> cases not <;> cases exact <;> simp [members, partMember]

/-- A part is found under its own name. -/
theorem lookup_partMember (name key : String) (part : Option Texts) :
    (partMember name part).lookup key = if key = name then part.map Texts.toJson else none := by
  cases part with
  | none => simp [partMember]
  | some texts => rw [partMember, KeyOrder.lookup_cons, List.lookup_nil, Option.map_some]

/-- The names of the parts. -/
def partNames : List String :=
  ["any", "all", "not", "exact"]

/-- Nothing is found under other names than those of the parts. -/
theorem lookup_members_of_not_mem (options : MatchOptions) {name : String}
    (other : name ∉ partNames) : options.members.lookup name = none := by
  simp only [partNames, List.mem_cons, List.not_mem_nil, or_false, not_or] at other
  simp [members, List.lookup_append, lookup_partMember, other]

/-- Options are decoded from an object that holds their parts under different names. -/
theorem decode_object {entries : List (String × Json)} (distinct : (entries.map Prod.fst).Nodup)
    {options : MatchOptions}
    (held : ∀ name, entries.lookup name = options.members.lookup name) :
    decode (.object entries) = .ok options := by
  have part {name : String} {part : Option Texts}
      (given : options.members.lookup name = part.map Texts.toJson) :=
    Record.reads_optional Texts.toJson distinct ((held name).trans given)
      fun texts _ => texts.optional_toJson
  have any := @part "any" options.any (by simp [members, List.lookup_append, lookup_partMember])
  have all := @part "all" options.all (by simp [members, List.lookup_append, lookup_partMember])
  have not := @part "not" options.not (by simp [members, List.lookup_append, lookup_partMember])
  have exact := @part "exact" options.exact
    (by simp [members, List.lookup_append, lookup_partMember])
  have reads : record.Reads entries options :=
    (((Record.reads_done.andThen any).andThen all).andThen not).andThen exact
  refine reads.decode_eq "MatchOptions" fun _ member inside => ?_
  refine Decidable.byContradiction fun other => ?_
  have absent := (held member.1).trans (options.lookup_members_of_not_mem other)
  exact absurd (List.lookup_eq_none_iff.mp absent member inside) (by simp)

end MatchOptions

/-- Whether the written form of a condition determines it: a number is no double, and options have a
part. -/
def FieldCondition.IsFaithful : FieldCondition → Prop
  | .number value => value.isInteger = true
  | .options value => value.isEmpty = false
  | _ => True

/-- A word is read back from its number as an end of a range. -/
theorem Number.toInt64_ofInt64 (value : Int64) : (Number.ofInt64 value).toInt64 = value :=
  Int64.ofIntClamp_toInt value

/-- A word is read back from its number. -/
theorem Number.toInt64?_ofInt64 (value : Int64) :
    (Number.ofInt64 value).toInt64? = some value := by
  have bounded := Int64.toInt_lt value
  rw [ofInt64, toInt64?, if_pos (by omega), Int64.ofInt_toInt]

theorem TimeUnit.ofName?_name (unit : TimeUnit) : ofName? unit.name = some unit := by
  cases unit <;> rfl

namespace FieldCondition

/-- The texts of a list are read back from its strings. -/
theorem listTexts_strings (texts : List String) : listTexts (texts.map .string) = .ok texts := by
  induction texts with
  | nil => rfl
  | cons first rest ih => rw [List.map_cons, listTexts, ih]; rfl

/-- In canonical order, members with different names hold what they held. -/
theorem ofJson_object {entries : List (String × Json)}
    (canonical : Json.canonicalMembers entries = entries) :
    ofJson (.object entries) = ofCanonical (.object (KeyOrder.sort entries)) := by
  rw [ofJson, Json.canonical, canonical]

/-- Options with a part are read back from their written form. -/
theorem ofJson_options {options : MatchOptions} (content : options.isEmpty = false) :
    ofJson options.toJson = .ok (.options options) := by
  have distinct := options.nodup_keys_members
  have held := KeyOrder.lookup_sort distinct
  have untyped : (KeyOrder.sort options.members).lookup "type" = none := by
    rw [held]
    exact options.lookup_members_of_not_mem (by simp [MatchOptions.partNames])
  have decoded := MatchOptions.decode_object
    (KeyOrder.nodup_keys_of_ascends (KeyOrder.ascends_sort options.members)) held
  rw [MatchOptions.toJson, ← MatchOptions.members, ofJson_object options.canonicalMembers_members]
  simp only [ofCanonical, untyped, Option.bind_none, optionsOfMembers, decoded, content,
    Bool.false_eq_true, ↓reduceIte]
  rfl

/-- A range is read back from its written form. -/
theorem ofJson_range (range : DateRange) : ofJson range.toJson = .ok (.range range) := by
  let entries : List (String × Json) := [("type", .string "date-range"),
    ("from", .number (.ofInt64 range.earliest)), ("to", .number (.ofInt64 range.latest))]
  have distinct : (entries.map Prod.fst).Nodup := by simp [entries]
  have held := KeyOrder.lookup_sort distinct
  have type : (KeyOrder.sort entries).lookup "type" = some (.string "date-range") := held "type"
  have earliest : (KeyOrder.sort entries).lookup "from" =
      some (.number (.ofInt64 range.earliest)) := held "from"
  have latest : (KeyOrder.sort entries).lookup "to" =
      some (.number (.ofInt64 range.latest)) := held "to"
  refine (@ofJson_object entries rfl).trans ?_
  simp only [ofCanonical, type, Option.bind_some, Json.asString?, rangeOfMembers, bound, earliest,
    latest, Json.asNumber?, Number.toInt64_ofInt64]
  rfl

/-- A relative date is read back from its written form. -/
theorem ofJson_relative (relative : RelativeDate) :
    ofJson relative.toJson = .ok (.relative relative) := by
  let entries : List (String × Json) := [("type", .string "relative-date"),
    ("unit", .string relative.unit.name), ("num", .number (.ofInt64 relative.count))]
  have distinct : (entries.map Prod.fst).Nodup := by simp [entries]
  have held := KeyOrder.lookup_sort distinct
  have type : (KeyOrder.sort entries).lookup "type" = some (.string "relative-date") := held "type"
  have unit : (KeyOrder.sort entries).lookup "unit" = some (.string relative.unit.name) :=
    held "unit"
  have count : (KeyOrder.sort entries).lookup "num" = some (.number (.ofInt64 relative.count)) :=
    held "num"
  refine (@ofJson_object entries rfl).trans ?_
  simp only [ofCanonical, type, Option.bind_some, Json.asString?, relativeOfMembers, unit, count,
    TimeUnit.ofName?_name, Json.asNumber?, Number.toInt64?_ofInt64]
  rfl

/-- A condition that is determined by its written form is decoded from it. -/
theorem decode_toJson {condition : FieldCondition} (faithful : condition.IsFaithful) :
    decode condition.toJson = .ok condition := by
  have read : ofJson condition.toJson = .ok condition := by
    cases condition with
    | flag value => rfl
    | number value => rfl
    | text value => rfl
    | list values =>
        rw [ofJson, toJson, Json.canonical_ofStrings, Json.ofStrings, ofCanonical,
          listTexts_strings]
        rfl
    | options value => exact ofJson_options faithful
    | range value => exact ofJson_range value
    | relative value => exact ofJson_relative value
  rw [decode, read]

end FieldCondition

namespace Predicate

/-- Whether all conditions are determined by their written forms. -/
def IsFaithful (predicate : Predicate) : Prop :=
  ∀ entry ∈ predicate.entries, entry.2.IsFaithful

/-- Entries are decoded from their written forms. -/
theorem decodeMembers_map {entries : FieldEntries}
    (faithful : ∀ entry ∈ entries, entry.2.IsFaithful) :
    decodeMembers (entries.map fun (field, condition) => (field, condition.toJson)) =
      .ok entries := by
  induction entries with
  | nil => rfl
  | cons entry rest ih =>
      have first := FieldCondition.decode_toJson (faithful entry List.mem_cons_self)
      have later := ih fun other member => faithful other (List.mem_cons_of_mem entry member)
      rw [List.map_cons, decodeMembers, first, later]
      rfl

/-- A predicate is decoded from its written form. -/
theorem decode_toJson {predicate : Predicate} (faithful : predicate.IsFaithful) :
    decode predicate.toJson = .ok predicate := by
  rw [toJson, decode, decodeMembers_map faithful]
  exact congrArg Except.ok predicate.ofEntries_entries

end Predicate

theorem Connective.decode_toJson (connective : Connective) :
    decode connective.toJson = .ok connective := by
  cases connective <;> rfl

theorem EntityType.decode_toJson (entity : EntityType) : decode entity.toJson = .ok entity := by
  cases entity <;> rfl

/-- A filter is decoded from its written form. -/
theorem Filter.decode_toJson {filter : Filter}
    (faithful : ∀ predicate ∈ filter.predicates, predicate.IsFaithful) :
    decode filter.toJson = .ok filter := by
  have predicates : Decode.list Predicate.decode (.array (filter.predicates.map Predicate.toJson)) =
      .ok filter.predicates :=
    Decode.list_map fun predicate member => Predicate.decode_toJson (faithful predicate member)
  have distinct : ([("operation", filter.connective.toJson),
      ("predicates", .array (filter.predicates.map Predicate.toJson))].map Prod.fst).Nodup := by
    simp
  refine Record.Reads.decode_eq ((Record.reads_done.andThen ?_).andThen ?_) "Filter" nofun
  · exact Record.reads_fieldOr distinct rfl (Connective.decode_toJson _) (some .and)
  · exact Record.reads_fieldOr distinct rfl predicates (some [])

/-- A query whose conditions are determined by their written forms is decoded from its own. -/
theorem Query.decode_toJson {query : Query}
    (faithful : ∀ predicate ∈ query.predicates, predicate.IsFaithful) :
    decode query.toJson = .ok query := by
  have filters : Decode.list Filter.decode (.array (query.filters.map Filter.toJson)) =
      .ok query.filters :=
    Decode.list_map fun filter member => Filter.decode_toJson fun predicate inside =>
      faithful predicate (List.mem_flatMap.mpr ⟨filter, member, inside⟩)
  have distinct : ([("targetEntity", query.target.toJson),
      ("filters", .array (query.filters.map Filter.toJson))].map Prod.fst).Nodup := by
    simp
  refine Record.Reads.decode_eq ((Record.reads_done.andThen ?_).andThen ?_) "Query" nofun
  · exact Record.reads_fieldOr distinct rfl (EntityType.decode_toJson _) none
  · exact Record.reads_fieldOr distinct rfl filters (some [])

end CatalogSearch
