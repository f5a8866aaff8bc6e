import CatalogSearch.Proofs.Criteria.Elision
import CatalogSearch.Proofs.Explanation.GroupedDocument
import CatalogSearch.Proofs.Explanation.Traversal

/-!
# Explanations and criteria

Explaining compares every field of the expanded query with the document; evaluating criteria stops
early and leaves out empty levels. Where an explanation succeeds, the two agree on whether the
document matches (`Query.matched_of_explain`).
-/

namespace CatalogSearch

/-- Whether some part has texts. -/
def MatchOptions.AsksForText (options : MatchOptions) : Prop :=
  ∃ part ∈ [options.any, options.all, options.not, options.exact], ∃ texts ∈ part, texts.toList ≠ []

/-- Whether some field has options with texts. -/
def Predicate.AsksForText (predicate : Predicate) : Prop :=
  ∃ entry ∈ predicate.entries, ∃ options ∈ entry.2.asOptions?, options.AsksForText

/-- Whether the options on groups, if there are any, have texts. -/
def Predicate.AsksForGroups (predicate : Predicate) : Prop :=
  ∀ options ∈ (predicate.get? groupField).bind FieldCondition.asOptions?, options.AsksForText

instance (options : MatchOptions) : Decidable options.AsksForText :=
  inferInstanceAs (Decidable (∃ part ∈ [options.any, options.all, options.not, options.exact],
    ∃ texts ∈ part, texts.toList ≠ []))

instance (predicate : Predicate) : Decidable predicate.AsksForText :=
  inferInstanceAs (Decidable (∃ entry ∈ predicate.entries, ∃ options ∈ entry.2.asOptions?,
    options.AsksForText))

instance (predicate : Predicate) : Decidable predicate.AsksForGroups :=
  inferInstanceAs (Decidable (∀ options ∈
    (predicate.get? groupField).bind FieldCondition.asOptions?, options.AsksForText))

theorem FieldCondition.asOptions?_eq_some {condition : FieldCondition} {options : MatchOptions} :
    condition.asOptions? = some options ↔ condition = .options options := by
  cases condition <;> simp [asOptions?]

namespace MatchOptions

/-- The engine takes options for vacuous exactly if they have no tests. -/
theorem isVacuous_iff {options : MatchOptions} :
    Explain.isVacuous options = true ↔ options.tests = [] := by
  simp [Explain.isVacuous, tests, partTests, and_assoc]

/-- Options have tests when some part has texts. -/
theorem tests_ne_nil {options : MatchOptions} (asking : options.AsksForText) :
    options.tests ≠ [] := by
  intro none
  simp only [tests, partTests, List.append_eq_nil_iff, Option.toList_eq_nil_iff,
    Option.map_eq_none_iff] at none
  obtain ⟨⟨⟨any, all⟩, not⟩, exact⟩ := none
  obtain ⟨part, member, texts, given, content⟩ := asking
  have found : nonempty? part = some texts.toList :=
    nonempty?_eq_some.mpr ⟨content, texts, given, rfl⟩
  simp only [List.mem_cons, List.not_mem_nil, or_false] at member
  rcases member with rfl | rfl | rfl | rfl
  · exact absurd (found.symm.trans any) (Option.some_ne_none _)
  · exact absurd (found.symm.trans all) (Option.some_ne_none _)
  · exact absurd (found.symm.trans not) (Option.some_ne_none _)
  · exact absurd (found.symm.trans exact) (Option.some_ne_none _)

/-- The test of a part passes if it does for the texts of the part, where there are any. -/
theorem all_partTests (part : Option Texts) (make : List String → FieldTest)
    (outcome : FieldTest → Bool) : (partTests part make).all outcome =
      (nonempty? part).all fun texts => outcome (make texts) := by
  unfold partTests
  cases nonempty? part <;> simp

end MatchOptions

namespace Explain

/-- Together, the reasons for a value say whether it meets all tests of the options. -/
theorem all_matched_comparisons (field : String) (options : MatchOptions) (value : Json) :
    (comparisons field options value.comparands).all Reason.matched =
      options.tests.all (FieldTest.meets (some value)) := by
  have any (texts : List String) : FieldTest.meets (some value) (.anyOf texts) =
      meetsAny texts value.comparands := rfl
  have all (texts : List String) : FieldTest.meets (some value) (.allOf texts) =
      meetsAll texts value.comparands := rfl
  have not (texts : List String) : FieldTest.meets (some value) (.noneOf texts) =
      meetsNone texts value.comparands := rfl
  have exact (texts : List String) : FieldTest.meets (some value) (.exact texts) =
      meetsAll texts value.comparands := rfl
  -- Both parts are required in one comparison, which is left out when neither asks for anything.
  have required (first second : Option (List String)) :
      (if (first.toList ++ second.toList).flatten.isEmpty then none
        else some (Reason.compared field .includesAll value.comparands
          (first.toList ++ second.toList).flatten
          (meetsAll (first.toList ++ second.toList).flatten value.comparands))).toList.all
            Reason.matched =
        (first.all (meetsAll · value.comparands) && second.all (meetsAll · value.comparands)) := by
    have split : meetsAll (first.toList ++ second.toList).flatten value.comparands =
        (first.all (meetsAll · value.comparands) && second.all (meetsAll · value.comparands)) := by
      cases first <;> cases second <;> simp [meetsAll]
    rw [← split]
    cases (first.toList ++ second.toList).flatten <;> simp [meetsAll, Reason.compared]
  have single (part : Option (List String)) (comparison : Comparison)
      (outcome : List String → Bool) :
      (part.map fun texts => Reason.compared field comparison value.comparands texts
        (outcome texts)).toList.all Reason.matched = part.all outcome := by
    cases part <;> simp [Reason.compared]
  unfold comparisons MatchOptions.tests
  dsimp only
  simp only [List.all_append, MatchOptions.all_partTests, required, single, any, all, not, exact]
  ac_rfl

/-- Together, the reasons for a field say whether it meets all tests of the options. -/
theorem all_matched_reasons (field : String) (options : MatchOptions) (value : Option Json)
    (information : Option Json) :
    (reasons field options value information).all Reason.matched =
      options.tests.all (FieldTest.meets value) := by
  unfold reasons
  split
  · rename_i vacuous
    rw [MatchOptions.isVacuous_iff.mp vacuous]
    rfl
  · rename_i demanding
    cases value with
    | none =>
        rw [MatchOptions.isVacuous_iff] at demanding
        obtain ⟨first, rest, tests⟩ := List.exists_cons_of_ne_nil demanding
        simp [tests, Reason.missing, Reason.informed]
    | some value =>
        have kept : Reason.matched ∘ Reason.informed information = Reason.matched := rfl
        dsimp only
        rw [List.all_map, kept, all_matched_comparisons]

section Field

variable {directory : GroupDirectory} {document : Document}

/-- A field that is matched gets its reasons from a lookup if it is the one of groups, and from the
document otherwise. -/
theorem field_options {field : String} (matching : FieldKind.ofName field = .matching)
    (options : MatchOptions) : Explain.field directory document (field, .options options) =
      if field = groupField then groupReasons directory document options
      else .done (reasons field options (document.value? field) none) := by
  unfold Explain.field
  rw [matching]
  rfl

/-- The reasons for the groups of a document are those for the field that holds them. -/
theorem all_matched_groupReasons {options : MatchOptions} (asking : options.AsksForText)
    {reasons : List Reason}
    (explained : (groupReasons directory document options).result = .ok reasons) :
    reasons.all Reason.matched = options.tests.all
      (FieldTest.meets ((document.withGroups directory).value? groupField)) := by
  unfold groupReasons at explained
  split at explained
  · rename_i anonymous
    cases explained
    rw [Document.value?_withGroups_of_none anonymous]
    obtain ⟨first, rest, tests⟩ := List.exists_cons_of_ne_nil (MatchOptions.tests_ne_nil asking)
    simp [tests, Reason.missing]
  · rename_i id named
    obtain ⟨groups, looked, rfl⟩ := Lookups.map_eq_ok.mp explained
    rw [Document.value?_withGroups_of_some named looked, all_matched_reasons]

/-- Only options on a field that is matched are explained. -/
theorem exists_options_of_field {entry : String × FieldCondition} {reasons : List Reason}
    (explained : (field directory document entry).result = .ok reasons) :
    FieldKind.ofName entry.1 = .matching ∧ ∃ options, entry.2 = .options options := by
  unfold field at explained
  split at explained
  · cases explained
  · cases explained
  · cases explained
  · rename_i options kind given
    exact ⟨kind, options, FieldCondition.asOptions?_eq_some.mp given⟩

/-- The reasons for a field together say whether the document with its groups satisfies the
condition. -/
theorem all_matched_field {entry : String × FieldCondition} {reasons : List Reason}
    (explained : (field directory document entry).result = .ok reasons)
    (grouped : ∀ options, entry = (groupField, .options options) → options.AsksForText)
    (now : Instant) : reasons.all Reason.matched =
      entry.2.isSatisfied now (document.withGroups directory) entry.1 := by
  obtain ⟨name, condition⟩ := entry
  obtain ⟨matching, options, rfl⟩ := exists_options_of_field explained
  rw [field_options matching] at explained
  by_cases group : name = groupField
  · subst group
    rw [if_pos rfl] at explained
    exact all_matched_groupReasons (grouped options rfl) explained
  · rw [if_neg group] at explained
    cases explained
    rw [all_matched_reasons, FieldCondition.isSatisfied, Document.value?_withGroups group]
    rfl

end Field

section Levels

variable {directory : GroupDirectory} {document : Document} {earlier : List String}
  {truth : String × FieldCondition → Bool}

/-- A predicate matches where all its fields do. -/
theorem matched_predicate {asked : Predicate} {explanation : PredicateExplanation}
    (explained : (predicate (fun _ => directory) document earlier asked).result = .ok explanation)
    (fields : ∀ entry ∈ asked.entries, ∀ reasons,
      (field directory document entry).result = .ok reasons →
        reasons.all Reason.matched = truth entry) :
    explanation.matched = asked.entries.all truth := by
  obtain ⟨results, reasons, rfl⟩ := Lookups.map_eq_ok.mp explained
  rw [List.all_flatten]
  exact Lookups.all_eq_of_forAll reasons fun entry member _ result given =>
    fields entry member result given

/-- A filter matches as its connective combines its predicates. -/
theorem matched_filter {numbered : Nat × Filter} {explanation : FilterExplanation}
    (explained : (filter (fun _ => directory) document earlier numbered).result = .ok explanation)
    (fields : ∀ predicate ∈ numbered.2.predicates, ∀ entry ∈ predicate.entries, ∀ reasons,
      (field directory document entry).result = .ok reasons →
        reasons.all Reason.matched = truth entry) :
    explanation.matched =
      numbered.2.holdsUnder fun predicate => predicate.entries.all truth := by
  obtain ⟨results, predicates, rfl⟩ := Lookups.map_eq_ok.mp explained
  have outcomes : results.map PredicateExplanation.matched =
      numbered.2.predicates.map fun predicate => predicate.entries.all truth :=
    Lookups.map_eq_of_forAll predicates fun predicate member _ result given =>
      matched_predicate given (fields predicate member)
  exact congrArg numbered.2.connective.combine outcomes

/-- Each filter passes its position on to what it expands to. -/
theorem numberedFilters_eq_flatMap (now : Instant) (position : Nat) (filters : List Filter) :
    numberedFilters now position filters = (filters.zipIdx position).flatMap
      fun (filter, place) => (filter.expand now).map fun expanded => (place, expanded) := by
  induction filters generalizing position with
  | nil => rfl
  | cons first rest ih => rw [numberedFilters, ih, List.zipIdx_cons, List.flatMap_cons]

/-- The numbered filters are those of the expanded query, in order. -/
theorem map_snd_numberedFilters (now : Instant) (position : Nat) (filters : List Filter) :
    (numberedFilters now position filters).map Prod.snd = filters.flatMap (Filter.expand now) := by
  induction filters generalizing position with
  | nil => rfl
  | cons first rest ih =>
      rw [numberedFilters, List.map_append, ih, List.flatMap_cons, List.map_map]
      congr 1
      exact List.map_id _

/-- The numbered filters are related one by one if those of the expanded queries are. -/
theorem forall₂_numberedFilters {first second : Query} {now : Instant}
    {relation : Filter → Filter → Prop}
    (related : List.Forall₂ relation (first.expand now).filters (second.expand now).filters) :
    List.Forall₂ (fun numbered other => relation numbered.2 other.2)
      (numberedFilters now 0 first.filters) (numberedFilters now 0 second.filters) := by
  rwa [Query.expand, Query.expand, ← map_snd_numberedFilters now 0,
    ← map_snd_numberedFilters now 0, List.forall₂_map_left_iff, List.forall₂_map_right_iff]
    at related

end Levels

end Explain

/-- What is made of the explanation of a query is found from what is made of those of its filters.
-/
theorem Query.map_explainThrough {γ δ : Type} (outcome : QueryExplanation → δ)
    (measure : FilterExplanation → γ) (combine : List γ → δ) {query : Query} {now : Instant}
    {document : Document}
    (assembled : ∀ results,
      outcome ⟨document, query, results.all FilterExplanation.matched, results,
        (results.flatMap FilterExplanation.reasons).flatMap PredicateExplanation.reasons⟩ =
          combine (results.map measure)) (source : GroupSource) :
    (query.explainThrough source now document).map outcome =
      if query.target = .item then
        (Lookups.forAll (fun before numbered =>
          (Explain.filter source document before numbered).map measure) []
            (Explain.numberedFilters now 0 query.filters)).map combine
      else .fail (.unsupportedTarget query.target) := by
  unfold explainThrough
  split
  · rw [Lookups.map_map, Lookups.forAll_map, Lookups.map_map]
    simp only [assembled]
  · rfl

/-- Only queries for items are explained, by the explanations of their numbered filters. -/
theorem Query.explainThrough_eq_ok {query : Query} {source : GroupSource} {now : Instant}
    {document : Document} {explanation : QueryExplanation} :
    (query.explainThrough source now document).result = .ok explanation ↔
      query.target = .item ∧ ∃ results,
        (Lookups.forAll (Explain.filter source document) []
          (Explain.numberedFilters now 0 query.filters)).result = .ok results ∧
        ⟨document, query, results.all FilterExplanation.matched, results,
          (results.flatMap FilterExplanation.reasons).flatMap PredicateExplanation.reasons⟩ =
            explanation := by
  unfold explainThrough
  split
  · rename_i items
    rw [Lookups.map_eq_ok, and_iff_right items]
  · rename_i others
    exact iff_of_false nofun fun explained => others explained.1

namespace Query

variable {query : Query} {directory : GroupDirectory} {now : Instant} {document : Document}
  {explanation : QueryExplanation}

/-- An explanation consists of those of the filters of the expanded query. -/
theorem exists_filters_of_explain
    (explained : (query.explain directory now document).result = .ok explanation) :
    ∃ results, (Lookups.forAll (Explain.filter (fun _ => directory) document) []
        (Explain.numberedFilters now 0 query.filters)).result = .ok results ∧
      explanation.matched = results.all FilterExplanation.matched := by
  obtain ⟨_, results, filters, rfl⟩ := explainThrough_eq_ok.mp explained
  exact ⟨results, filters, rfl⟩

/-- Where an explanation succeeds, the expanded query has only options on fields that are matched.
-/
theorem exists_options_of_explain
    (explained : (query.explain directory now document).result = .ok explanation) :
    ∀ filter ∈ (query.expand now).filters, ∀ predicate ∈ filter.predicates,
      ∀ entry ∈ predicate.entries,
        FieldKind.ofName entry.1 = .matching ∧ ∃ options, entry.2 = .options options := by
  intro filter filterMember predicate predicateMember entry entryMember
  obtain ⟨results, filters, _⟩ := exists_filters_of_explain explained
  rw [expand, ← Explain.map_snd_numberedFilters now 0] at filterMember
  obtain ⟨numbered, numberedMember, rfl⟩ := List.mem_map.mp filterMember
  obtain ⟨_, _, filterExplained⟩ := Lookups.exists_of_forAll filters numbered numberedMember
  obtain ⟨_, predicates, _⟩ := Lookups.map_eq_ok.mp filterExplained
  obtain ⟨_, _, predicateExplained⟩ := Lookups.exists_of_forAll predicates predicate predicateMember
  obtain ⟨_, entries, _⟩ := Lookups.map_eq_ok.mp predicateExplained
  obtain ⟨_, _, entryExplained⟩ := Lookups.exists_of_forAll entries entry entryMember
  exact Explain.exists_options_of_field entryExplained

/-- A document matches in an explanation as the filters of the expanded query combine the outcomes
of the fields. -/
theorem matched_of_explain_of_fields
    (explained : (query.explain directory now document).result = .ok explanation)
    {truth : String × FieldCondition → Bool}
    (fields : ∀ filter ∈ (query.expand now).filters, ∀ predicate ∈ filter.predicates,
      ∀ entry ∈ predicate.entries, ∀ reasons,
        (Explain.field directory document entry).result = .ok reasons →
          reasons.all Reason.matched = truth entry) :
    explanation.matched = (query.expand now).filters.all
      (Filter.holdsUnder fun predicate => predicate.entries.all truth) := by
  obtain ⟨results, filters, matched⟩ := exists_filters_of_explain explained
  rw [matched, expand, ← Explain.map_snd_numberedFilters now 0, List.all_map]
  refine Lookups.all_eq_of_forAll filters fun numbered member _ result given => ?_
  refine Explain.matched_filter given (fields numbered.2 ?_)
  rw [expand, ← Explain.map_snd_numberedFilters now 0]
  exact List.mem_map_of_mem member

/-- A document matches in an explanation when, with its groups, it satisfies the expanded query. -/
theorem matched_of_explain
    (explained : (query.explain directory now document).result = .ok explanation)
    (grouped : ∀ filter ∈ (query.expand now).filters, ∀ predicate ∈ filter.predicates,
      predicate.AsksForGroups)
    (evaluatedAt : Instant) : explanation.matched =
      (query.expand now).isSatisfied evaluatedAt (document.withGroups directory) := by
  refine matched_of_explain_of_fields explained fun filter filterMember predicate predicateMember
    entry member reasons given => ?_
  refine Explain.all_matched_field given (fun options same => ?_) evaluatedAt
  have held := Predicate.get?_eq_some_iff.mpr (same ▸ member)
  exact grouped filter filterMember predicate predicateMember options (by rw [held]; rfl)

/-- A query that can be explained has the same expansion at every instant. -/
theorem expand_eq_of_explain
    (explained : (query.explain directory now document).result = .ok explanation)
    (evaluatedAt : Instant) : query.expand evaluatedAt = query.expand now :=
  expand_eq_of_matching fun filter filterMember predicate predicateMember entry entryMember =>
    (exists_options_of_explain explained filter filterMember predicate predicateMember entry
      entryMember).1

/-- The criteria of a query that can be explained have no free text. -/
theorem withoutFreeText_of_explain
    (explained : (query.explain directory now document).result = .ok explanation)
    (evaluatedAt : Instant) (policy : FieldPolicy) :
    (query.criteria evaluatedAt policy).WithoutFreeText := by
  apply everyTest_criteria
  rw [expand_eq_of_explain explained]
  intro filter filterMember predicate predicateMember entry entryMember _ test testMember
  obtain ⟨_, options, given⟩ := exists_options_of_explain explained filter filterMember predicate
    predicateMember entry entryMember
  rw [Bool.eq_false_iff]
  intro freeText
  obtain ⟨_, text, other⟩ := FieldCondition.eq_text_of_isFreeText testMember freeText
  rw [given] at other
  cases other

end Query

/-- A predicate that asks for some text has tests. -/
theorem Predicate.isVacuous_eq_false {now : Instant} {predicate : Predicate}
    (asking : predicate.AsksForText) : predicate.isVacuous now = false := by
  obtain ⟨entry, member, options, given, texts⟩ := asking
  rw [Bool.eq_false_iff]
  intro vacuous
  have none := List.isEmpty_iff.mp (List.all_eq_true.mp vacuous entry member)
  rw [FieldCondition.asOptions?_eq_some.mp given] at none
  exact MatchOptions.tests_ne_nil texts none

/-- **Explanations agree with the criteria.** If a query can be explained for a document, the
document matches in the explanation exactly when, with its groups, it matches the criteria of the
query at any instant. For this, disjunctions must have predicates, each with a text to compare some
field with, and options on groups must have texts. -/
theorem Query.matches_criteria_of_explain {query : Query} {directory : GroupDirectory}
    {explainedAt : Instant} {document : Document} {explanation : QueryExplanation}
    (explained : (query.explain directory explainedAt document).result = .ok explanation)
    (demanding : ∀ filter ∈ (query.expand explainedAt).filters, filter.connective = .or →
      filter.predicates ≠ [] ∧ ∀ predicate ∈ filter.predicates, predicate.AsksForText)
    (grouped : ∀ filter ∈ (query.expand explainedAt).filters, ∀ predicate ∈ filter.predicates,
      predicate.AsksForGroups)
    (now : Instant) :
    (query.criteria now .all).matches (document.withGroups directory) =
      .ok explanation.matched := by
  have same := expand_eq_of_explain explained now
  have uniform : ∀ filter ∈ (query.expand now).filters, filter.IsUniform now := by
    intro filter member disjunction
    rw [same] at member
    obtain ⟨content, asking⟩ := demanding filter member disjunction
    refine ⟨content, .inr fun predicate inside => ?_⟩
    exact Predicate.isVacuous_eq_false (asking predicate inside)
  rw [Criteria.matches_eq_holds (withoutFreeText_of_explain explained now .all),
    holds_criteria_of_uniform uniform, same, matched_of_explain explained grouped now]

/-- Story maps, or items of a group that is found by the identifier of the item. -/
theorem Query.matches_criteria_of_explain_grouped :
    let query : Query := ⟨.item, [⟨.or, [.ofEntries [("group", .list ["g1", "g2"])],
      .ofEntries [("type", .text "$storymap"), ("owner", .options ⟨none, none, none, none⟩)]]⟩]⟩
    let directory : GroupDirectory := fun id =>
      if id = "i1" then .ok ⟨[], [⟨"g1", "Maps"⟩], []⟩ else .error (.collaborator "no such item")
    let document : Document := .ofMembers [("id", .string "i1"), ("type", .string "Web Map")]
    ∃ explanation, (query.explain directory .epoch document).result = .ok explanation ∧
      (∀ filter ∈ (query.expand .epoch).filters, filter.connective = .or →
        filter.predicates ≠ [] ∧ ∀ predicate ∈ filter.predicates, predicate.AsksForText) ∧
      (∀ filter ∈ (query.expand .epoch).filters, ∀ predicate ∈ filter.predicates,
        predicate.AsksForGroups) ∧
      explanation.matched = true ∧
      (query.criteria .epoch .all).matches (document.withGroups directory) =
        .ok explanation.matched := by
  intro query directory document
  have demanding : ∀ filter ∈ (query.expand .epoch).filters, filter.connective = .or →
      filter.predicates ≠ [] ∧ ∀ predicate ∈ filter.predicates, predicate.AsksForText := by
    decide
  have grouped : ∀ filter ∈ (query.expand .epoch).filters, ∀ predicate ∈ filter.predicates,
      predicate.AsksForGroups := by
    decide
  obtain ⟨explanation, explained, matched⟩ : ∃ explanation,
      (query.explain directory .epoch document).result = .ok explanation ∧
        explanation.matched = true := ⟨_, rfl, rfl⟩
  exact ⟨explanation, explained, demanding, grouped, matched,
    matches_criteria_of_explain explained demanding grouped .epoch⟩

end CatalogSearch
