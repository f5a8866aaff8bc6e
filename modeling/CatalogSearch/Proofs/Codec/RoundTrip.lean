import CatalogSearch.Proofs.Codec.Queries
import CatalogSearch.Proofs.Expansion.Restructuring
import CatalogSearch.Proofs.Json.Reading

/-!
# Queries and their texts

Decoding never gives options without a part, and expanding never makes any. So a decoded query whose
numbers are no doubles is read back from its text, and so is its expansion
(`Query.decode_compact_of_decode`).
-/

namespace CatalogSearch

section Text

open Json (isPlain_array isPlain_object isPlain_string isPlain_bool isPlain_number)

/-- An array of strings is nested once. -/
theorem Json.isPlain_ofStrings (texts : List String) : (ofStrings texts).IsPlain 1 :=
  isPlain_array fun item member => by
    obtain ⟨text, _, rfl⟩ := List.mem_map.mp member
    exact isPlain_string text

/-- Texts are nested at most once. -/
theorem Texts.isPlain_toJson (texts : Texts) : texts.toJson.IsPlain 1 := by
  cases texts with
  | one text => exact isPlain_string text
  | many texts => exact Json.isPlain_ofStrings texts

/-- Options are nested at most twice. -/
theorem MatchOptions.isPlain_toJson (options : MatchOptions) : options.toJson.IsPlain 2 := by
  have part {name : String} {part : Option Texts} :
      ∀ member ∈ partMember name part, member.2.IsPlain 1 := by
    cases part with
    | none => exact fun _ inside => absurd inside List.not_mem_nil
    | some texts => exact List.forall_mem_singleton.mpr texts.isPlain_toJson
  refine isPlain_object fun member inside => ?_
  simp only [List.mem_append] at inside
  rcases inside with ((own | own) | own) | own <;> exact part member own

/-- A condition is nested at most twice. -/
theorem FieldCondition.isPlain_toJson {condition : FieldCondition}
    (faithful : condition.IsFaithful) : condition.toJson.IsPlain 2 := by
  cases condition with
  | flag value => exact isPlain_bool value
  | number value => exact isPlain_number faithful
  | text value => exact isPlain_string value
  | list values => exact (Json.isPlain_ofStrings values).mono (Nat.le_succ 1)
  | options value => exact value.isPlain_toJson
  | range value =>
      refine isPlain_object (List.forall_mem_cons.mpr ⟨isPlain_string _, ?_⟩)
      exact List.forall_mem_cons.mpr ⟨isPlain_number rfl,
        List.forall_mem_singleton.mpr (isPlain_number rfl)⟩
  | relative value =>
      refine isPlain_object (List.forall_mem_cons.mpr ⟨isPlain_string _, ?_⟩)
      exact List.forall_mem_cons.mpr ⟨isPlain_string _,
        List.forall_mem_singleton.mpr (isPlain_number rfl)⟩

/-- A predicate is nested at most three times. -/
theorem Predicate.isPlain_toJson {predicate : Predicate} (faithful : predicate.IsFaithful) :
    predicate.toJson.IsPlain 3 :=
  isPlain_object fun _ inside => by
    obtain ⟨entry, given, rfl⟩ := List.mem_map.mp inside
    exact FieldCondition.isPlain_toJson (faithful entry given)

/-- A filter is nested at most five times. -/
theorem Filter.isPlain_toJson {filter : Filter}
    (faithful : ∀ predicate ∈ filter.predicates, predicate.IsFaithful) :
    filter.toJson.IsPlain 5 := by
  have predicates : (Json.array (filter.predicates.map Predicate.toJson)).IsPlain 4 :=
    isPlain_array fun item member => by
      obtain ⟨predicate, given, rfl⟩ := List.mem_map.mp member
      exact Predicate.isPlain_toJson (faithful predicate given)
  exact isPlain_object (List.forall_mem_cons.mpr
    ⟨isPlain_string _, List.forall_mem_singleton.mpr predicates⟩)

/-- A query is nested at most seven times. -/
theorem Query.isPlain_toJson {query : Query}
    (faithful : ∀ predicate ∈ query.predicates, predicate.IsFaithful) :
    query.toJson.IsPlain 7 := by
  have filters : (Json.array (query.filters.map Filter.toJson)).IsPlain 6 :=
    isPlain_array fun item member => by
      obtain ⟨filter, given, rfl⟩ := List.mem_map.mp member
      exact Filter.isPlain_toJson fun predicate inside =>
        faithful predicate (List.mem_flatMap.mpr ⟨filter, given, inside⟩)
  exact isPlain_object (List.forall_mem_cons.mpr
    ⟨isPlain_string _, List.forall_mem_singleton.mpr filters⟩)

/-- A query whose conditions are determined by their written forms is read back from its text. -/
theorem Query.decode_compact {query : Query}
    (faithful : ∀ predicate ∈ query.predicates, predicate.IsFaithful) :
    (Json.parse? query.toJson.compact).map decode = some (.ok query) := by
  have plain : query.toJson.IsPlain Json.maximalDepth :=
    (isPlain_toJson faithful).mono (Nat.le_add_right 7 120)
  rw [Json.parse?_compact plain, Option.map_some, decode_toJson faithful]

end Text

section Decoding

/-- Options are decoded only with a part. -/
theorem FieldCondition.isEmpty_of_decode {json : Json} {options : MatchOptions}
    (decoded : decode json = .ok (.options options)) : options.isEmpty = false := by
  have read : ofCanonical json.canonical = .ok (.options options) := by
    unfold decode at decoded
    split at decoded
    · rename_i condition read
      cases decoded
      exact read
    · cases decoded
  have found {α : Type} {make : α → FieldCondition} {result : Except ConditionError α}
      (given : result.map make = .ok (.options options)) :
      ∃ value, result = .ok value ∧ make value = .options options := by
    cases result with
    | error cause => cases given
    | ok value => exact ⟨value, rfl, Except.ok.inj given⟩
  unfold ofCanonical at read
  split at read
  · cases read
  · cases read
  · cases read
  · cases read
  · obtain ⟨_, _, other⟩ := found read
    cases other
  · split at read
    · obtain ⟨_, _, other⟩ := found read
      cases other
    · obtain ⟨_, _, other⟩ := found read
      cases other
    · obtain ⟨_, parts, same⟩ := found read
      cases same
      unfold optionsOfMembers at parts
      split at parts
      · cases parts
      · split at parts
        · cases parts
        · rename_i content
          cases parts
          exact Bool.eq_false_iff.mpr content

/-- Every condition of decoded members has been decoded. -/
theorem Predicate.exists_json_of_decodeMembers {members : List (String × Json)}
    {entries : FieldEntries} (decoded : decodeMembers members = .ok entries) :
    ∀ entry ∈ entries, ∃ json, FieldCondition.decode json = .ok entry.2 := by
  induction members generalizing entries with
  | nil =>
      cases decoded
      exact fun _ member => absurd member List.not_mem_nil
  | cons member rest ih =>
      obtain ⟨field, value⟩ := member
      simp only [decodeMembers, Decode.bind_eq_ok, Except.ok.injEq] at decoded
      obtain ⟨condition, first, others, later, rfl⟩ := decoded
      intro entry inside
      rcases List.mem_cons.mp inside with rfl | inside
      · exact ⟨value, first⟩
      · exact ih later entry inside

/-- Every condition of a decoded predicate has been decoded. -/
theorem Predicate.exists_json_of_decode {json : Json} {predicate : Predicate}
    (decoded : decode json = .ok predicate) :
    ∀ entry ∈ predicate.entries, ∃ json, FieldCondition.decode json = .ok entry.2 := by
  unfold decode at decoded
  split at decoded
  · rename_i members
    cases read : decodeMembers members with
    | error error =>
        rw [read] at decoded
        cases decoded
    | ok entries =>
        rw [read] at decoded
        cases decoded
        intro entry member
        rcases mem_insertAll member with none | given
        · exact absurd none List.not_mem_nil
        · exact exists_json_of_decodeMembers read entry given
  · cases decoded

/-- Every predicate of a decoded filter has been decoded. -/
theorem Filter.exists_json_of_decode {json : Json} {filter : Filter}
    (decoded : decode json = .ok filter) :
    ∀ predicate ∈ filter.predicates, ∃ json, Predicate.decode json = .ok predicate := by
  obtain ⟨_, _, _, ⟨_, predicates⟩, rfl⟩ := Record.of_decode_pair decoded
  rcases Record.of_read_fieldOr predicates with empty | ⟨_, list⟩
  · cases empty
    exact fun _ member => absurd member List.not_mem_nil
  · exact Decode.exists_json_of_list list

/-- Every filter of a decoded query has been decoded. -/
theorem Query.exists_json_of_decode {json : Json} {query : Query}
    (decoded : decode json = .ok query) :
    ∀ filter ∈ query.filters, ∃ json, Filter.decode json = .ok filter := by
  obtain ⟨_, _, _, ⟨_, filters⟩, rfl⟩ := Record.of_decode_pair decoded
  rcases Record.of_read_fieldOr filters with empty | ⟨_, list⟩
  · cases empty
    exact fun _ member => absurd member List.not_mem_nil
  · exact Decode.exists_json_of_list list

/-- Whether a condition is a number that is a double. -/
def FieldCondition.isDouble : FieldCondition → Bool
  | .number value => !value.isInteger
  | _ => false

/-- The conditions of a decoded query are determined by their written forms if its numbers are no
doubles. -/
theorem Query.isFaithful_of_decode {json : Json} {query : Query}
    (decoded : decode json = .ok query)
    (integers : ∀ predicate ∈ query.predicates, ∀ entry ∈ predicate.entries,
      entry.2.isDouble = false) :
    ∀ predicate ∈ query.predicates, predicate.IsFaithful := by
  intro predicate member entry inside
  obtain ⟨filter, filterMember, predicateMember⟩ := List.mem_flatMap.mp member
  obtain ⟨_, filterDecoded⟩ := exists_json_of_decode decoded filter filterMember
  obtain ⟨_, predicateDecoded⟩ := Filter.exists_json_of_decode filterDecoded predicate
    predicateMember
  obtain ⟨_, given⟩ := Predicate.exists_json_of_decode predicateDecoded entry inside
  have integer := integers predicate member entry inside
  generalize entry.2 = condition at given integer ⊢
  cases condition with
  | number value => exact (Bool.not_eq_false' _).mp integer
  | options value => exact FieldCondition.isEmpty_of_decode given
  | _ => trivial

end Decoding

section Expansion

/-- Expanding a condition leaves it determined by its written form. -/
theorem FieldCondition.IsFaithful.expand {condition : FieldCondition}
    (faithful : condition.IsFaithful) (now : Instant) (field : String) :
    (condition.expand now field).IsFaithful := by
  cases kind : FieldKind.ofName field <;> cases condition <;>
    simp only [FieldCondition.expand, kind] <;> first | exact faithful | trivial

/-- What a condition asks of the type besides shortcuts is determined by its written form. -/
theorem TypeSelection.isFaithful_rest {condition rest : FieldCondition}
    (faithful : condition.IsFaithful) (given : (ofCondition condition).rest = some rest) :
    rest.IsFaithful := by
  cases condition with
  | text value =>
      dsimp only [ofCondition] at given
      split at given
      · cases given
      · obtain rfl := Option.some.inj given
        trivial
  | list values =>
      obtain ⟨_, rfl⟩ := restOf_eq_some.mp given
      trivial
  | options value =>
      dsimp only [ofCondition] at given
      obtain ⟨_, rfl⟩ := restOf_eq_some.mp given
      rfl
  | _ =>
      obtain rfl := Option.some.inj given
      exact faithful

/-- A condition from a fragment is determined by its written form. -/
theorem Predicate.isFaithful_fragmentCondition (constraints : MatchOptions) (field : String)
    (texts : List String) : (fragmentCondition constraints field texts).IsFaithful := by
  unfold fragmentCondition
  split <;> rfl

namespace Predicate.IsFaithful

variable {predicate : Predicate} (faithful : predicate.IsFaithful)

include faithful

/-- Setting such a condition leaves a predicate determined by its written form. -/
theorem insert {condition : FieldCondition} (other : condition.IsFaithful) (field : String) :
    (predicate.insert field condition).IsFaithful := by
  intro entry member
  rcases FieldEntries.mem_set member with rfl | given
  · exact other
  · exact faithful entry given

theorem withoutTypes : predicate.withoutTypes.IsFaithful :=
  fun entry member => faithful entry (FieldEntries.mem_unset (FieldEntries.mem_unset member))

/-- Putting constraints on the type leaves a predicate determined by its written form. -/
theorem withConstraints (constraints : MatchOptions) :
    (predicate.withConstraints constraints).IsFaithful := by
  unfold Predicate.withConstraints
  split
  · exact faithful
  · rename_i content
    have whole : (FieldCondition.options constraints).IsFaithful := Bool.eq_false_iff.mpr content
    exact faithful.insert whole typeField

theorem insertAll {entries : FieldEntries} (others : ∀ entry ∈ entries, entry.2.IsFaithful) :
    (predicate.insertAll entries).IsFaithful :=
  fun entry member => (mem_insertAll member).elim (faithful entry) (others entry)

/-- Applying a fragment leaves a predicate determined by its written form. -/
theorem applyFragment (constraints : MatchOptions) (fragment : Fragment) :
    (predicate.applyFragment constraints fragment).IsFaithful := by
  have brought : ∀ entry ∈ fragment.map fun part =>
      (part.1, fragmentCondition constraints part.1 part.2), entry.2.IsFaithful := by
    intro entry member
    obtain ⟨part, _, rfl⟩ := List.mem_map.mp member
    exact isFaithful_fragmentCondition constraints part.1 part.2
  have extended := faithful.insertAll brought
  unfold Predicate.applyFragment
  dsimp only
  split
  · exact extended
  · exact extended.withConstraints constraints

/-- What a predicate asks of the type besides shortcuts is determined by its written form. -/
theorem rest {rest : FieldCondition} (given : predicate.typeSelection.rest = some rest) :
    rest.IsFaithful := by
  unfold typeSelection at given
  cases held : predicate.get? typeField with
  | none =>
      rw [held] at given
      cases given
  | some condition =>
      rw [held] at given
      exact TypeSelection.isFaithful_rest (faithful _ (get?_eq_some_iff.mp held)) given

/-- The alternatives of a predicate are determined by their written forms. -/
theorem alternatives : ∀ alternative ∈ predicate.alternatives, alternative.IsFaithful := by
  intro alternative member
  by_cases names : predicate.NamesShortcuts
  · rcases (mem_alternatives_iff names).mp member with ⟨rest, given, rfl⟩ | ⟨fragment, _, rfl⟩ |
      ⟨_, _, rfl⟩
    · exact faithful.withoutTypes.insert (faithful.rest given) typeField
    · exact faithful.withoutTypes.applyFragment _ fragment
    · exact faithful.withoutTypes.withConstraints _
  · rw [alternatives_of_not_namesShortcuts names, List.mem_singleton] at member
    exact member ▸ faithful

/-- Expanding a predicate leaves it determined by its written form. -/
theorem expand (now : Instant) : (predicate.expand now).IsFaithful := by
  intro entry member
  obtain ⟨condition, given, same⟩ := mem_entries_expand_iff.mp member
  rw [same]
  exact (faithful _ given).expand now entry.1

end Predicate.IsFaithful

/-- Expansion keeps that the conditions of a query are determined by their written forms. -/
theorem Query.isFaithful_expand {query : Query}
    (faithful : ∀ predicate ∈ query.predicates, predicate.IsFaithful) (now : Instant) :
    ∀ predicate ∈ (query.expand now).predicates, predicate.IsFaithful := by
  intro predicate member
  obtain ⟨original, given, alternative, listed, rfl⟩ := origin_of_mem_expand member
  exact ((faithful original given).alternatives alternative listed).expand now

end Expansion

namespace Query

/-- **Queries survive their texts.** A query that was decoded and whose numbers are no doubles is
read back from the text that it is written as, and so is its expansion at any instant. -/
theorem decode_compact_of_decode {json : Json} {query : Query} (decoded : decode json = .ok query)
    (integers : ∀ predicate ∈ query.predicates, ∀ entry ∈ predicate.entries,
      entry.2.isDouble = false) (now : Instant) :
    (Json.parse? query.toJson.compact).map decode = some (.ok query) ∧
      (Json.parse? (query.expand now).toJson.compact).map decode =
        some (.ok (query.expand now)) := by
  have faithful := isFaithful_of_decode decoded integers
  exact ⟨decode_compact faithful, decode_compact (isFaithful_expand faithful now)⟩

/-- Members out of order, one of them null and one given twice, and a shortcut. -/
theorem decode_compact_of_decode_shortcut :
    let json : Json := .object [("filters", .array [.object [("predicates", .array [.object [
        ("tags", .object [("not", .null), ("exact", .string "maps"), ("any", .array [])]),
        ("type", .string "Web Map"),
        ("created", .object [("num", .number (.ofNat 2)), ("type", .string "relative-date"),
          ("unit", .string "weeks")]),
        ("type", .array [.string "$storymap", .string "PDF"]),
        ("size", .number (.ofInt64 (-7)))]])]]), ("targetEntity", .string "item")]
    let query : Query := ⟨.item, [⟨.and, [.ofEntries [
      ("tags", .options ⟨some (.many []), none, none, some (.one "maps")⟩),
      ("type", .list ["$storymap", "PDF"]), ("created", .relative ⟨.weeks, 2⟩),
      ("size", .number (.ofInt64 (-7)))]]⟩]⟩
    decode json = .ok query ∧
      (∀ predicate ∈ query.predicates, ∀ entry ∈ predicate.entries, entry.2.isDouble = false) ∧
      (query.expand .epoch).filters.length = 1 ∧
      (Json.parse? query.toJson.compact).map decode = some (.ok query) ∧
      (Json.parse? (query.expand .epoch).toJson.compact).map decode =
        some (.ok (query.expand .epoch)) := by
  intro json query
  have decoded : decode json = .ok query := rfl
  have integers : ∀ predicate ∈ query.predicates, ∀ entry ∈ predicate.entries,
      entry.2.isDouble = false := by
    decide
  exact ⟨decoded, integers, rfl, decode_compact_of_decode decoded integers .epoch⟩

end Query

end CatalogSearch
