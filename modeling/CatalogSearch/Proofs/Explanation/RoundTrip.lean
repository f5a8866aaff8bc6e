import CatalogSearch.Proofs.Codec.Explanations
import CatalogSearch.Proofs.Explanation.Outcome

/-!
# Explanations and their texts

What explaining makes is determined by its written form: the filters are expanded from those of the
query and numbered by their positions, and the only thing that a reason tells besides is which
groups a document has. So an explanation is read back from its text
(`Query.decode_text_of_explainThrough`).
-/

namespace CatalogSearch

/-- The object of a group has its members in order. -/
theorem GroupReference.isCanonical_toJson (group : GroupReference) :
    group.toJson.IsCanonical := by
  have ordered : "id" < "title" := by decide
  exact ⟨List.pairwise_pair.mpr ordered, trivial, trivial, trivial⟩

/-- The object of a group holds texts only. -/
theorem GroupReference.isPlain_toJson (group : GroupReference) : group.toJson.IsPlain 1 := by
  refine Json.isPlain_object ?_
  simp only [List.forall_mem_cons]
  exact ⟨Json.isPlain_string _, Json.isPlain_string _, nofun⟩

namespace Explain

/-- The objects in the information on groups have their members in order. -/
theorem isCanonical_groupInformation (groups : ItemGroups) :
    (groupInformation groups).IsCanonical := by
  have each : Json.ItemsCanonical (groups.all.map GroupReference.toJson) :=
    Json.itemsCanonical_iff.mpr (List.forall_mem_map.mpr fun group _ => group.isCanonical_toJson)
  exact ⟨List.pairwise_singleton _ _, each, trivial⟩

theorem isPlain_groupInformation (groups : ItemGroups) : (groupInformation groups).IsPlain 3 :=
  Json.isPlain_object (List.forall_mem_singleton.mpr
    (Json.isPlain_array (List.forall_mem_map.mpr fun group _ => group.isPlain_toJson)))

/-- A reason tells which groups there are or nothing besides. -/
theorem isFaithful_of_information {reason : Reason}
    (told : ∀ information ∈ reason.information, ∃ groups, information = groupInformation groups) :
    reason.IsFaithful where
  canonical information member := by
    obtain ⟨groups, rfl⟩ := told information member
    exact isCanonical_groupInformation groups
  content information member := by
    obtain ⟨groups, rfl⟩ := told information member
    exact Json.noConfusion
  plain information member := by
    obtain ⟨groups, rfl⟩ := told information member
    exact (isPlain_groupInformation groups).mono (Nat.le_add_right 3 117)

/-- All reasons of a field carry the information they were made with. -/
theorem information_of_mem_reasons {field : String} {options : MatchOptions} {value : Option Json}
    {information : Option Json} {reason : Reason}
    (member : reason ∈ reasons field options value information) :
    reason.information = information := by
  unfold reasons at member
  split at member
  · exact absurd member List.not_mem_nil
  · cases value with
    | none => rw [List.mem_singleton.mp member]; rfl
    | some value =>
        obtain ⟨_, _, rfl⟩ := List.mem_map.mp member
        rfl

section Levels

variable {source : GroupSource} {directory : GroupDirectory} {document : Document}
  {earlier : List String}

/-- The written forms of reasons on groups determine them. -/
theorem isFaithful_of_groupReasons {options : MatchOptions} {block : List Reason}
    (explained : (groupReasons directory document options).result = .ok block) :
    ∀ reason ∈ block, reason.IsFaithful := by
  intro reason member
  apply isFaithful_of_information
  cases named : document.identifier? with
  | none =>
      rw [groupReasons_of_anonymous named] at explained
      cases explained
      obtain rfl := List.mem_singleton.mp member
      exact nofun
  | some id =>
      rw [groupReasons_of_named named] at explained
      obtain ⟨groups, _, rfl⟩ := Lookups.map_eq_ok.mp explained
      rw [information_of_mem_reasons member]
      exact fun information told => ⟨groups, (Option.some.inj told).symm⟩

/-- The written forms of the reasons for a field determine them. -/
theorem isFaithful_of_field {entry : String × FieldCondition} {block : List Reason}
    (explained : (field directory document entry).result = .ok block) :
    ∀ reason ∈ block, reason.IsFaithful := by
  obtain ⟨name, condition⟩ := entry
  obtain ⟨matching, options, rfl⟩ := exists_options_of_field explained
  rw [field_options matching] at explained
  split at explained
  · exact isFaithful_of_groupReasons explained
  · cases explained
    intro reason member
    apply isFaithful_of_information
    rw [information_of_mem_reasons member]
    exact nofun

/-- The written form of an explained predicate determines it, if that of the predicate does. -/
theorem isFaithful_of_predicate {asked : Predicate} {explanation : PredicateExplanation}
    (faithful : asked.IsFaithful)
    (explained : (predicate source document earlier asked).result = .ok explanation) :
    explanation.IsFaithful := by
  obtain ⟨blocks, fields, rfl⟩ := Lookups.map_eq_ok.mp explained
  refine ⟨faithful, fun reason member => ?_⟩
  obtain ⟨block, listed, inside⟩ := List.mem_flatten.mp member
  obtain ⟨_, _, _, outcome⟩ := Lookups.exists_element_of_forAll fields block listed
  exact isFaithful_of_field outcome reason inside

/-- The written form of an explained filter determines it, at a position below 2^64. -/
theorem isFaithful_of_filter {numbered : Nat × Filter} {explanation : FilterExplanation}
    (position : numbered.1 < 18446744073709551616)
    (faithful : ∀ predicate ∈ numbered.2.predicates, predicate.IsFaithful)
    (explained : (filter source document earlier numbered).result = .ok explanation) :
    explanation.IsFaithful := by
  obtain ⟨parts, predicates, rfl⟩ := Lookups.map_eq_ok.mp explained
  refine ⟨position, faithful, fun part member => ?_⟩
  obtain ⟨_, asked, inside, outcome⟩ := Lookups.exists_element_of_forAll predicates part member
  exact isFaithful_of_predicate (faithful asked inside) outcome

end Levels

/-- Numbered filters are those of the expanded query, and their numbers are positions in the query.
-/
theorem mem_expand_of_mem_numberedFilters {query : Query} {now : Instant} {numbered : Nat × Filter}
    (member : numbered ∈ numberedFilters now 0 query.filters) :
    numbered.1 < query.filters.length ∧ numbered.2 ∈ (query.expand now).filters := by
  refine ⟨?_, ?_⟩
  · rw [numberedFilters_eq_flatMap] at member
    obtain ⟨⟨original, place⟩, listed, inside⟩ := List.mem_flatMap.mp member
    obtain ⟨_, _, rfl⟩ := List.mem_map.mp inside
    exact (List.mem_zipIdx' listed).1
  · rw [Query.expand, ← map_snd_numberedFilters now 0]
    exact List.mem_map_of_mem member

end Explain

namespace Query

variable {query : Query} {source : GroupSource} {now : Instant} {document : Document}
  {explanation : QueryExplanation}

/-- The written form of an explained query determines it, if the document is plain, with at most 126
levels. -/
theorem isFaithful_of_explainThrough
    (faithful : ∀ predicate ∈ query.predicates, predicate.IsFaithful)
    (positions : query.filters.length ≤ 18446744073709551616)
    (plain : document.toJson.IsPlain 126)
    (explained : (query.explainThrough source now document).result = .ok explanation) :
    explanation.IsFaithful := by
  obtain ⟨_, results, filters, rfl⟩ := explainThrough_eq_ok.mp explained
  have parts : ∀ part ∈ results, part.IsFaithful := by
    intro part member
    obtain ⟨_, numbered, listed, outcome⟩ :=
      Lookups.exists_element_of_forAll filters part member
    obtain ⟨place, expanded⟩ := Explain.mem_expand_of_mem_numberedFilters listed
    refine Explain.isFaithful_of_filter (Nat.lt_of_lt_of_le place positions) ?_ outcome
    intro predicate inside
    exact isFaithful_expand faithful now predicate
      (List.mem_flatMap.mpr ⟨numbered.2, expanded, inside⟩)
  refine ⟨plain, faithful, parts, fun reason member => ?_⟩
  obtain ⟨predicatePart, listed, inside⟩ := List.mem_flatMap.mp member
  obtain ⟨filterPart, given, held⟩ := List.mem_flatMap.mp listed
  exact ((parts filterPart given).reasons predicatePart held).reasons reason inside

/-- **Explanations survive their texts.** Where a decoded query is explained for a document that is
nested at most 126 levels deep, and neither has a double, the explanation is read back from the text
that it is written as. Positions of filters are written as words of 64 bits, so no more filters can
be told apart. -/
theorem decode_text_of_explainThrough {json : Json} (decoded : decode json = .ok query)
    (integers : ∀ predicate ∈ query.predicates, ∀ entry ∈ predicate.entries,
      entry.2.isDouble = false)
    (positions : query.filters.length ≤ 18446744073709551616)
    (exact : document.toJson.IsExact) (shallow : document.toJson.depth ≤ 126)
    (explained : (query.explainThrough source now document).result = .ok explanation) :
    (Json.parse? explanation.toJson.compact).map QueryExplanation.decode =
        some (.ok explanation) ∧
      (Json.parse? explanation.toJson.indented).map QueryExplanation.decode =
        some (.ok explanation) := by
  have faithful := isFaithful_of_explainThrough (isFaithful_of_decode decoded integers) positions
    ⟨exact, shallow⟩ explained
  exact ⟨faithful.decode_compact, faithful.decode_indented⟩

/-- Story maps of a group with a quoted title, in a document that has no owner. -/
theorem decode_text_of_explainThrough_groups :
    let json : Json := .object [("filters", .array [.object [("predicates", .array [
        .object [("group", .object [("not", .string "g2"), ("all", .array [.string "g1"])]),
          ("type", .string "$storymap")],
        .object [("owner", .string "casey"), ("owner", .array [.string "drew"])]])]]),
      ("targetEntity", .string "item")]
    let query : Query := ⟨.item, [⟨.and, [.ofEntries [
      ("group", .options ⟨none, some (.many ["g1"]), some (.one "g2"), none⟩),
      ("type", .text "$storymap")], .ofEntries [("owner", .list ["drew"])]]⟩]⟩
    let source : GroupSource := fun _ _ => .ok ⟨[⟨"g1", "\"Maps\" é"⟩], [], [⟨"g2", ""⟩]⟩
    let document : Document := .ofMembers [("type", .string "StoryMap"), ("id", .string "i1"),
      ("extent", .array [.object [], .number (.ofInt64 (-7)), .bool true])]
    decode json = .ok query ∧
      (∀ predicate ∈ query.predicates, ∀ entry ∈ predicate.entries,
        entry.2.isDouble = false) ∧
      query.filters.length ≤ 18446744073709551616 ∧
      document.toJson.IsExact ∧ document.toJson.depth ≤ 126 ∧
      ∃ explanation, (query.explainThrough source .epoch document).result = .ok explanation ∧
        explanation.summary.map (fun reason => reason.information.isSome) =
          [false, true, true, false, true, true, false, false] ∧
        (Json.parse? explanation.toJson.compact).map QueryExplanation.decode =
          some (.ok explanation) ∧
        (Json.parse? explanation.toJson.indented).map QueryExplanation.decode =
          some (.ok explanation) := by
  intro json query source document
  have decoded : decode json = .ok query := rfl
  have integers : ∀ predicate ∈ query.predicates, ∀ entry ∈ predicate.entries,
      entry.2.isDouble = false := by
    decide
  have positions : query.filters.length ≤ 18446744073709551616 := by decide
  have extent : (Json.array [.object [], .number (.ofInt64 (-7)), .bool true]).IsExact :=
    Json.isExact_array (List.forall_mem_cons.mpr ⟨Json.isExact_object nofun,
      List.forall_mem_cons.mpr ⟨Json.isExact_number rfl,
        List.forall_mem_singleton.mpr (Json.isExact_bool true)⟩⟩)
  have exact : document.toJson.IsExact :=
    Json.isExact_object (List.forall_mem_cons.mpr ⟨extent,
      List.forall_mem_cons.mpr ⟨Json.isExact_string "i1",
        List.forall_mem_singleton.mpr (Json.isExact_string "StoryMap")⟩⟩)
  have shallow : document.toJson.depth ≤ 126 := by decide
  exact ⟨decoded, integers, positions, exact, shallow, _, rfl, rfl,
    @decode_text_of_explainThrough query source .epoch document _ json decoded integers positions
      exact shallow rfl⟩

end Query

end CatalogSearch
