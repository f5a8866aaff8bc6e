import CatalogSearch.Explanation.Basic
import CatalogSearch.Proofs.Codec.RoundTrip
import CatalogSearch.Proofs.Json.Indentation

/-!
# Explanations read back from their written form

The written form of a reason determines it if what it tells besides is canonical and not null, and
that of a filter at a position which fits a word. Explanations all of whose parts are such are read
back from their texts (`QueryExplanation.IsFaithful.decode_compact`).
-/

namespace CatalogSearch

/-- The written form of a reason determines it. An explanation holds what a reason tells besides
within seven arrays and objects, so this may be 120 levels deep. -/
structure Reason.IsFaithful (reason : Reason) : Prop where
  canonical : ∀ information ∈ reason.information, information.IsCanonical
  content : ∀ information ∈ reason.information, information ≠ .null
  plain : ∀ information ∈ reason.information, information.IsPlain 120

/-- Whether the written form of an explained predicate determines it. -/
structure PredicateExplanation.IsFaithful (explanation : PredicateExplanation) : Prop where
  predicate : explanation.predicate.IsFaithful
  reasons : ∀ reason ∈ explanation.reasons, reason.IsFaithful

/-- Whether the written form of an explained filter determines it. -/
structure FilterExplanation.IsFaithful (explanation : FilterExplanation) : Prop where
  source : explanation.source < 18446744073709551616
  predicates : ∀ predicate ∈ explanation.filter.predicates, predicate.IsFaithful
  reasons : ∀ part ∈ explanation.reasons, part.IsFaithful

/-- Whether the written form of an explanation determines it. -/
structure QueryExplanation.IsFaithful (explanation : QueryExplanation) : Prop where
  document : explanation.document.toJson.IsPlain 126
  predicates : ∀ predicate ∈ explanation.query.predicates, predicate.IsFaithful
  reasons : ∀ part ∈ explanation.reasons, part.IsFaithful
  summary : ∀ reason ∈ explanation.summary, reason.IsFaithful

section Decoding

open Record (reads_done reads_fieldOr reads_fieldOr_of_absent)

/-- A document is decoded from its written form, which is canonical. -/
theorem Document.decode_toJson (document : Document) : decode document.toJson = .ok document := by
  obtain ⟨members, ascends, canonical⟩ := document
  have same : KeyOrder.sort (Json.canonicalMembers members) = members := by
    rw [Json.canonicalMembers_of_membersCanonical canonical, KeyOrder.sort_of_ascends ascends]
  rw [toJson, decode, ofMembers]
  simp only [same]

theorem Comparison.decode_toJson (comparison : Comparison) :
    decode comparison.toJson = .ok comparison := by
  cases comparison <;> rfl

/-- A position is decoded from the number that it is. -/
theorem Decode.natural_ofNat {value : Nat} (small : value < 18446744073709551616)
    (expected : Expectation) :
    natural 18446744073709551616 expected (.number (.ofNat value)) = .ok value := by
  have kept : min (value : Int) 18446744073709551615 = value := by omega
  simp only [Number.ofNat, kept]
  exact natural_integer small expected

namespace Reason

/-- A reason is decoded from its written form, with what it tells besides if there is something. -/
theorem decode_toJson {reason : Reason} (faithful : reason.IsFaithful) :
    decode reason.toJson = .ok reason := by
  obtain ⟨field, values, comparison, matched, requirement, message, information⟩ := reason
  let members : List (String × Json) :=
    [("attribute", .string field), ("values", .ofStrings values),
      ("condition", comparison.toJson), ("matched", .bool matched),
      ("requirement", .ofStrings requirement), ("message", .string message)] ++
      (information.map fun value => ("meta", value)).toList
  have distinct : (members.map Prod.fst).Nodup := by
    cases information <;> simp [members]
  have besides : (Record.optional "meta" decodeInformation).Reads members information := by
    cases information with
    | none => exact reads_fieldOr_of_absent rfl
    | some value =>
        have same : decodeInformation value = .ok value :=
          congrArg Except.ok (Json.canonical_of_isCanonical (faithful.canonical value rfl))
        exact reads_fieldOr distinct rfl
          (Decode.optional_of_ok (faithful.content value rfl) same) (some none)
  refine Record.Reads.decode_eq (((((((reads_done.andThen ?_).andThen ?_).andThen ?_).andThen
    ?_).andThen ?_).andThen ?_).andThen besides) "MatchReason" nofun
  · exact reads_fieldOr distinct rfl (Decode.string_string field) none
  · exact reads_fieldOr distinct rfl (Decode.list_ofStrings values) none
  · exact reads_fieldOr distinct rfl comparison.decode_toJson none
  · exact reads_fieldOr distinct rfl (Decode.boolean_bool matched) none
  · exact reads_fieldOr distinct rfl (Decode.list_ofStrings requirement) none
  · exact reads_fieldOr distinct rfl (Decode.string_string message) none

end Reason

namespace PredicateExplanation

/-- An explained predicate is decoded from its written form. -/
theorem decode_toJson {explanation : PredicateExplanation} (faithful : explanation.IsFaithful) :
    decode explanation.toJson = .ok explanation := by
  have distinct : ([("predicate", explanation.predicate.toJson),
      ("matched", .bool explanation.matched),
      ("reasons", .array (explanation.reasons.map Reason.toJson))].map Prod.fst).Nodup := by
    simp
  refine Record.Reads.decode_eq (((reads_done.andThen ?_).andThen ?_).andThen ?_)
    "PredicateExplanation" nofun
  · exact reads_fieldOr distinct rfl (Predicate.decode_toJson faithful.predicate) none
  · exact reads_fieldOr distinct rfl (Decode.boolean_bool explanation.matched) none
  · exact reads_fieldOr distinct rfl (Decode.list_map fun reason member =>
      Reason.decode_toJson (faithful.reasons reason member)) none

end PredicateExplanation

namespace FilterExplanation

/-- An explained filter is decoded from its written form. -/
theorem decode_toJson {explanation : FilterExplanation} (faithful : explanation.IsFaithful) :
    decode explanation.toJson = .ok explanation := by
  have distinct : ([("source", Json.number (.ofNat explanation.source)),
      ("filter", explanation.filter.toJson), ("matched", .bool explanation.matched),
      ("reasons", .array (explanation.reasons.map PredicateExplanation.toJson))].map
        Prod.fst).Nodup := by
    simp
  refine Record.Reads.decode_eq ((((reads_done.andThen ?_).andThen ?_).andThen ?_).andThen ?_)
    "FilterExplanation" nofun
  · exact reads_fieldOr distinct rfl (Decode.natural_ofNat faithful.source .size) none
  · exact reads_fieldOr distinct rfl (Filter.decode_toJson faithful.predicates) none
  · exact reads_fieldOr distinct rfl (Decode.boolean_bool explanation.matched) none
  · exact reads_fieldOr distinct rfl (Decode.list_map fun part member =>
      PredicateExplanation.decode_toJson (faithful.reasons part member)) none

end FilterExplanation

/-- An explanation is decoded from its written form, part by part. -/
theorem QueryExplanation.decode_toJson {explanation : QueryExplanation}
    (faithful : explanation.IsFaithful) : decode explanation.toJson = .ok explanation := by
  have distinct : ([("result", explanation.document.toJson), ("query", explanation.query.toJson),
      ("matched", .bool explanation.matched),
      ("reasons", .array (explanation.reasons.map FilterExplanation.toJson)),
      ("summary", .array (explanation.summary.map Reason.toJson))].map Prod.fst).Nodup := by
    simp
  refine Record.Reads.decode_eq
    (((((reads_done.andThen ?_).andThen ?_).andThen ?_).andThen ?_).andThen ?_)
    "QueryExplanation" nofun
  · exact reads_fieldOr distinct rfl explanation.document.decode_toJson none
  · exact reads_fieldOr distinct rfl (Query.decode_toJson faithful.predicates) none
  · exact reads_fieldOr distinct rfl (Decode.boolean_bool explanation.matched) none
  · exact reads_fieldOr distinct rfl (Decode.list_map fun part member =>
      FilterExplanation.decode_toJson (faithful.reasons part member)) none
  · exact reads_fieldOr distinct rfl (Decode.list_map fun reason member =>
      Reason.decode_toJson (faithful.summary reason member)) none

end Decoding

section Text

open Json (isPlain_array isPlain_object isPlain_string isPlain_number isPlain_bool
  isPlain_ofStrings)

/-- A reason has no doubles and is not nested deeply. -/
theorem Reason.isPlain_toJson {reason : Reason} (faithful : reason.IsFaithful) :
    reason.toJson.IsPlain 121 := by
  have texts (listed : List String) : (Json.ofStrings listed).IsPlain 120 :=
    (isPlain_ofStrings listed).mono (Nat.le_add_right 1 119)
  refine isPlain_object (List.forall_mem_append.mpr ⟨?_, fun member inside => ?_⟩)
  · simp only [List.forall_mem_cons]
    exact ⟨isPlain_string _, texts _, isPlain_string _, isPlain_bool _, texts _, isPlain_string _,
      nofun⟩
  · obtain ⟨information, told, rfl⟩ := Option.map_eq_some_iff.mp (Option.mem_toList.mp inside)
    exact faithful.plain information told

/-- An explained predicate has no doubles and is not nested deeply. -/
theorem PredicateExplanation.isPlain_toJson {explanation : PredicateExplanation}
    (faithful : explanation.IsFaithful) : explanation.toJson.IsPlain 123 := by
  have reasons : (Json.array (explanation.reasons.map Reason.toJson)).IsPlain 122 :=
    isPlain_array (List.forall_mem_map.mpr fun reason member =>
      Reason.isPlain_toJson (faithful.reasons reason member))
  refine isPlain_object ?_
  simp only [List.forall_mem_cons]
  exact ⟨(Predicate.isPlain_toJson faithful.predicate).mono (Nat.le_add_right 3 119),
    isPlain_bool _, reasons, nofun⟩

/-- An explained filter has no doubles and is not nested deeply. -/
theorem FilterExplanation.isPlain_toJson {explanation : FilterExplanation}
    (faithful : explanation.IsFaithful) : explanation.toJson.IsPlain 125 := by
  have reasons : (Json.array (explanation.reasons.map PredicateExplanation.toJson)).IsPlain 124 :=
    isPlain_array (List.forall_mem_map.mpr fun part member =>
      PredicateExplanation.isPlain_toJson (faithful.reasons part member))
  refine isPlain_object ?_
  simp only [List.forall_mem_cons]
  exact ⟨isPlain_number rfl,
    (Filter.isPlain_toJson faithful.predicates).mono (Nat.le_add_right 5 119),
    isPlain_bool _, reasons, nofun⟩

/-- An explanation has no doubles and is not nested too deeply to be read. -/
theorem QueryExplanation.isPlain_toJson {explanation : QueryExplanation}
    (faithful : explanation.IsFaithful) : explanation.toJson.IsPlain Json.maximalDepth := by
  have reasons : (Json.array (explanation.reasons.map FilterExplanation.toJson)).IsPlain 126 :=
    isPlain_array (List.forall_mem_map.mpr fun part member =>
      FilterExplanation.isPlain_toJson (faithful.reasons part member))
  have summary : (Json.array (explanation.summary.map Reason.toJson)).IsPlain 122 :=
    isPlain_array (List.forall_mem_map.mpr fun reason member =>
      Reason.isPlain_toJson (faithful.summary reason member))
  refine isPlain_object ?_
  simp only [List.forall_mem_cons]
  exact ⟨faithful.document,
    (Query.isPlain_toJson faithful.predicates).mono (Nat.le_add_right 7 119),
    isPlain_bool _, reasons, summary.mono (Nat.le_add_right 122 4), nofun⟩

end Text

namespace QueryExplanation.IsFaithful

variable {explanation : QueryExplanation} (faithful : explanation.IsFaithful)

include faithful

/-- An explanation whose parts are determined by their written forms is read back from its text. -/
theorem decode_compact :
    (Json.parse? explanation.toJson.compact).map decode = some (.ok explanation) := by
  rw [Json.parse?_compact (isPlain_toJson faithful), Option.map_some, decode_toJson faithful]

/-- An explanation is read back from its indented text. -/
theorem decode_indented :
    (Json.parse? explanation.toJson.indented).map decode = some (.ok explanation) := by
  rw [Json.parse?_indented (isPlain_toJson faithful), Option.map_some, decode_toJson faithful]

end QueryExplanation.IsFaithful

end CatalogSearch
