import CatalogSearch.Proofs.Criteria.Policies
import CatalogSearch.Proofs.Expansion.Spelling
import CatalogSearch.Proofs.Explanation.Agreement

/-!
# Spellings are no matter

A query has the criteria of its full spelling (`Query.criteria_spelled`). Explaining takes the same
course and comes to the same reasons (`Query.map_outcome_explainThrough_spelled`), since neither
tests nor reasons show how a list of texts was spelled. So all spellings of a query compile and
explain alike (`Query.SpelledAlike.outcome_eq`).
-/

namespace CatalogSearch

namespace MatchOptions

theorem nonempty?_spelled (part : Option Texts) :
    nonempty? (part.map Texts.spelled) = nonempty? part := by
  cases part <;> rfl

section Options

variable {field : String} (options : MatchOptions) (other : field ≠ subFiltersField)

include other

/-- Spelling out match options changes no part that has texts. -/
theorem parts_spelled : nonempty? (options.spelled field).any = nonempty? options.any ∧
    nonempty? (options.spelled field).all = nonempty? options.all ∧
    nonempty? (options.spelled field).not = nonempty? options.not ∧
    nonempty? (options.spelled field).exact = nonempty? options.exact := by
  have listed : (options.spelled field).any = options.any.map Texts.spelled := by
    unfold spelled
    cases options.any with
    | none => rfl
    | some texts =>
        exact congrArg (some ∘ Texts.many) (map_spelledText_of_ne other texts.toList)
  rw [listed]
  exact ⟨nonempty?_spelled _, nonempty?_spelled _, nonempty?_spelled _, nonempty?_spelled _⟩

/-- Tests do not show how the texts of match options are spelled. -/
theorem tests_spelled : (options.spelled field).tests = options.tests := by
  obtain ⟨any, all, not, exact⟩ := options.parts_spelled other
  simp only [tests, partTests, any, all, not, exact]

/-- Reasons do not show how the texts of match options are spelled. -/
theorem reasons_spelled (value information : Option Json) :
    Explain.reasons field (options.spelled field) value information =
      Explain.reasons field options value information := by
  obtain ⟨any, all, not, exact⟩ := options.parts_spelled other
  unfold Explain.reasons Explain.isVacuous Explain.comparisons
  rw [any, all, not, exact]

end Options

end MatchOptions

/-- Tests do not show how a condition was spelled. -/
theorem FieldCondition.tests_expand_spelled {field : String} (other : field ≠ subFiltersField)
    (condition : FieldCondition) (now : Instant) :
    ((condition.spelled field).expand now field).tests now field =
      (condition.expand now field).tests now field := by
  rcases condition.expand_spelled other now with same | ⟨_, options, expanded, spelled⟩
  · rw [same]
  · rw [expanded, spelled]
    exact options.tests_spelled other

/-- The conditions in full that a predicate has are on fields other than the one for shortcuts. -/
theorem Predicate.ne_subFiltersField {predicate : Predicate}
    (complete : predicate.get? subFiltersField = none) :
    ∀ entry ∈ predicate.entries, entry.1 ≠ subFiltersField := by
  intro entry member names
  have held := get?_eq_some_iff.mpr member
  rw [names, complete] at held
  cases held

namespace Query

/-- The predicates that replace those of a query have no field for shortcuts. -/
theorem get?_subFiltersField_restructure {query : Query} {filter : Filter}
    (member : filter ∈ query.filters.flatMap Filter.restructure) :
    ∀ predicate ∈ filter.predicates, predicate.get? subFiltersField = none := by
  intro predicate inside
  obtain ⟨source, _, replaced⟩ := List.mem_flatMap.mp member
  obtain ⟨original, _, listed⟩ := Filter.mem_alternatives_of_mem_restructure replaced inside
  exact (Predicate.not_namesShortcuts_iff.mp
    (Predicate.not_namesShortcuts_of_mem_alternatives listed)).1

/-- A spelled query has the filters of the query, each spelled before its conditions are expanded.
-/
theorem expand_spelled_filters (query : Query) (now : Instant) :
    (query.spelled.expand now).filters = (query.filters.flatMap Filter.restructure).map
      fun filter => filter.spelled.expandConditions now := by
  have restructured : query.spelled.filters.flatMap Filter.restructure =
      (query.filters.flatMap Filter.restructure).map Filter.spelled := by
    simp only [spelled, List.flatMap_map, List.map_flatMap, Filter.restructure_spelled]
  rw [expand_filters, restructured, List.map_map]
  rfl

end Query

section Criteria

variable {now : Instant} {policy : FieldPolicy}

/-- A predicate without the field for shortcuts is lowered like its full spelling. -/
theorem Predicate.conjunction?_spelled {predicate : Predicate}
    (complete : predicate.get? subFiltersField = none) :
    (predicate.spelled.expand now).conjunction? now policy =
      (predicate.expand now).conjunction? now policy := by
  refine conjunction?_eq_of_forall₂ ?_
  simp only [expand, mapConditions, spelled, List.forall₂_map_left_iff, List.forall₂_map_right_iff,
    List.forall₂_same]
  intro entry member
  simp only [Clause.ofEntry?,
    FieldCondition.tests_expand_spelled (ne_subFiltersField complete entry member)]

/-- A spelled filter is lowered like the filter it spells. -/
theorem Filter.criteriaGroup?_spelled {filter : Filter}
    (complete : ∀ predicate ∈ filter.predicates, predicate.get? subFiltersField = none) :
    (filter.spelled.expandConditions now).criteriaGroup? now policy =
      (filter.expandConditions now).criteriaGroup? now policy := by
  refine criteriaGroup?_eq_of_forall₂ rfl ?_
  simp only [expandConditions, spelled, mapPredicates, List.forall₂_map_left_iff,
    List.forall₂_map_right_iff, List.forall₂_same]
  exact fun predicate inside => Predicate.conjunction?_spelled (complete predicate inside)

/-- A query has the criteria of its full spelling. -/
theorem Query.criteria_spelled (query : Query) :
    query.spelled.criteria now policy = query.criteria now policy := by
  refine congrArg Criteria.mk ?_
  rw [expand_spelled_filters, expand_filters, List.filterMap_map, List.filterMap_map]
  exact List.filterMap_congr fun filter member =>
    Filter.criteriaGroup?_spelled (get?_subFiltersField_restructure member)

end Criteria

/-! ### Explanations without their query -/

/-- Whether a predicate matches and the reasons for it. -/
def PredicateExplanation.outcome (explanation : PredicateExplanation) : Bool × List Reason :=
  (explanation.matched, explanation.reasons)

/-- Whether a filter matches and the reasons for it. -/
def FilterExplanation.outcome (explanation : FilterExplanation) : Bool × List Reason :=
  (explanation.matched, explanation.reasons.flatMap PredicateExplanation.reasons)

/-- Whether a query matches and the reasons for it. -/
def QueryExplanation.outcome (explanation : QueryExplanation) : Bool × List Reason :=
  (explanation.matched, explanation.summary)

/-- The outcome of several parts: whether they match as a connective combines them, and the reasons
for all of them. -/
def Connective.outcome (connective : Connective) (outcomes : List (Bool × List Reason)) :
    Bool × List Reason :=
  (connective.combine (outcomes.map Prod.fst), outcomes.flatMap Prod.snd)

/-- Whether predicates have fields that are explained alike, in the same order. -/
def Predicate.ExplainedAlike (first second : Predicate) : Prop :=
  List.Forall₂ (fun entry other => ∀ directory document,
    Explain.field directory document entry = Explain.field directory document other)
    first.entries second.entries

/-- Whether filters combine predicates that are explained alike, in the same order. -/
structure Filter.ExplainedAlike (first second : Filter) : Prop where
  connective : first.connective = second.connective
  predicates : List.Forall₂ Predicate.ExplainedAlike first.predicates second.predicates

section Explanation

variable {source : GroupSource} {document : Document}

/-- Predicates that are explained alike have the same outcome. -/
theorem Predicate.ExplainedAlike.map_outcome_eq {first second : Predicate}
    (alike : first.ExplainedAlike second) (earlier : List String) :
    (Explain.predicate source document earlier first).map PredicateExplanation.outcome =
      (Explain.predicate source document earlier second).map PredicateExplanation.outcome := by
  rw [Explain.predicate, Explain.predicate, Lookups.map_map, Lookups.map_map]
  exact congrArg (Lookups.map _)
    (Lookups.forAll_congr (fun before _ _ same => same (source before) document) alike earlier)

/-- The outcome of a filter is found from those of its predicates. -/
theorem Explain.map_outcome_filter (earlier : List String) (numbered : Nat × Filter) :
    (filter source document earlier numbered).map FilterExplanation.outcome =
      (Lookups.forAll (fun before asked =>
        (predicate source document before asked).map PredicateExplanation.outcome) earlier
          numbered.2.predicates).map numbered.2.connective.outcome := by
  have combined (results : List PredicateExplanation) :
      numbered.2.connective.outcome (results.map PredicateExplanation.outcome) =
        (numbered.2.connective.combine (results.map PredicateExplanation.matched),
          results.flatMap PredicateExplanation.reasons) := by
    rw [Connective.outcome, List.map_map, List.flatMap_map]
    rfl
  rw [filter, Lookups.map_map, Lookups.forAll_map, Lookups.map_map]
  simp only [combined]
  rfl

/-- Filters that are explained alike have the same outcome. -/
theorem Filter.ExplainedAlike.map_outcome_eq {first second : Filter}
    (alike : first.ExplainedAlike second) (position place : Nat) (earlier : List String) :
    (Explain.filter source document earlier (position, first)).map FilterExplanation.outcome =
      (Explain.filter source document earlier (place, second)).map FilterExplanation.outcome := by
  rw [Explain.map_outcome_filter, Explain.map_outcome_filter, alike.connective]
  exact congrArg (Lookups.map _) (Lookups.forAll_congr
    (fun before _ _ alike => alike.map_outcome_eq before) alike.predicates earlier)

/-- Queries whose expansions are explained alike have the same outcome. -/
theorem Query.map_outcome_explainThrough_congr {first second : Query} {now : Instant}
    (target : first.target = second.target)
    (alike : List.Forall₂ Filter.ExplainedAlike (first.expand now).filters
      (second.expand now).filters) :
    (first.explainThrough source now document).map QueryExplanation.outcome =
      (second.explainThrough source now document).map QueryExplanation.outcome := by
  have combined (results : List FilterExplanation) :
      (results.all FilterExplanation.matched,
        (results.flatMap FilterExplanation.reasons).flatMap PredicateExplanation.reasons) =
      Connective.and.outcome (results.map FilterExplanation.outcome) := by
    simp only [Connective.outcome, Connective.combine, List.map_map, List.all_map,
      List.flatMap_map, List.flatMap_assoc]
    rfl
  rw [map_explainThrough _ _ Connective.and.outcome combined,
    map_explainThrough _ _ Connective.and.outcome combined, target]
  split
  · exact congrArg (Lookups.map _) (Lookups.forAll_congr
      (fun before _ _ alike => alike.map_outcome_eq _ _ before)
      (Explain.forall₂_numberedFilters alike) [])
  · rfl

/-- Explaining does not show how a condition was spelled. -/
theorem Explain.field_expand_spelled {name : String} (other : name ≠ subFiltersField)
    (condition : FieldCondition) (now : Instant) (directory : GroupDirectory)
    (document : Document) :
    field directory document (name, (condition.spelled name).expand now name) =
      field directory document (name, condition.expand now name) := by
  rcases condition.expand_spelled other now with same | ⟨matching, options, expanded, spelled⟩
  · rw [same]
  · rw [expanded, spelled, field_options matching, field_options matching,
      options.reasons_spelled other]
    split
    · rename_i group
      subst group
      simp only [groupReasons, options.reasons_spelled other]
    · rfl

/-- Explaining a query takes the same course as explaining its full spelling, to the same verdict
and reasons. -/
theorem Query.map_outcome_explainThrough_spelled (query : Query) (now : Instant) :
    (query.spelled.explainThrough source now document).map QueryExplanation.outcome =
      (query.explainThrough source now document).map QueryExplanation.outcome := by
  refine map_outcome_explainThrough_congr rfl ?_
  rw [expand_spelled_filters, expand_filters, List.forall₂_map_left_iff,
    List.forall₂_map_right_iff, List.forall₂_same]
  intro filter member
  refine ⟨rfl, ?_⟩
  simp only [Filter.expandConditions, Filter.spelled, Filter.mapPredicates,
    List.forall₂_map_left_iff, List.forall₂_map_right_iff, List.forall₂_same]
  intro predicate inside
  have complete := get?_subFiltersField_restructure member predicate inside
  simp only [Predicate.ExplainedAlike, Predicate.expand, Predicate.mapConditions,
    Predicate.spelled, List.forall₂_map_left_iff, List.forall₂_map_right_iff, List.forall₂_same]
  exact fun entry constrained => Explain.field_expand_spelled
    (Predicate.ne_subFiltersField complete entry constrained) entry.2 now

end Explanation

/-- **All spellings of a query compile and explain alike.** Queries that are spelled alike have the
same criteria under every policy, so a portal is sent the same search text and filter and an OGC
service the same expression. Over every source of groups, explaining them takes the same course to
the same verdict, reasons and error. -/
theorem Query.SpelledAlike.outcome_eq {first second : Query} (alike : first.SpelledAlike second)
    (now : Instant) :
    (∀ policy, first.criteria now policy = second.criteria now policy) ∧
    (∀ settings,
      (PortalSearch.ofQuery settings now first).query =
        (PortalSearch.ofQuery settings now second).query ∧
      (PortalSearch.ofQuery settings now first).exact =
        (PortalSearch.ofQuery settings now second).exact) ∧
    (∀ settings, Ogc.expression settings now first = Ogc.expression settings now second) ∧
    ∀ source document, (first.explainThrough source now document).map QueryExplanation.outcome =
      (second.explainThrough source now document).map QueryExplanation.outcome := by
  have criteria (policy : FieldPolicy) :
      first.criteria now policy = second.criteria now policy := by
    rw [← criteria_spelled first, alike.spelled_eq, criteria_spelled]
  refine ⟨criteria, fun settings => ?_, fun settings => ?_, fun source document => ?_⟩
  · simp only [PortalSearch.ofQuery, PortalSearch.ofCriteria, criteria, and_self]
  · rw [Ogc.expression, criteria, Ogc.expression]
  · rw [← map_outcome_explainThrough_spelled first, alike.spelled_eq,
      map_outcome_explainThrough_spelled]

/-- The names of shortcuts and the texts of other conditions, spelled in two ways. -/
theorem Query.SpelledAlike.outcome_eq_shortcuts :
    let first : Query := ⟨.item, [
      ⟨.and, [.ofEntries [("type", .list ["$storymap", "Form"]), ("tags", .text "maps")]]⟩,
      ⟨.or, [.ofEntries [("subFilters", .text "$dashboard"), ("group", .text "g1"),
        ("owner", .options ⟨some (.one "casey"), none, some (.one "robin"), none⟩)]]⟩]⟩
    let second : Query := ⟨.item, [
      ⟨.and, [.ofEntries [
        ("type", .options ⟨some (.many ["$storymap", "Form"]), none, none, none⟩),
        ("tags", .list ["maps"])]]⟩,
      ⟨.or, [.ofEntries [("subFilters", .options ⟨some (.one "dashboard"), none, none, none⟩),
        ("group", .options ⟨some (.many ["g1"]), none, none, none⟩),
        ("owner", .options ⟨some (.many ["casey"]), none, some (.many ["robin"]), none⟩)]]⟩]⟩
    let source : GroupSource := fun _ _ => .ok ⟨[⟨"g1", "Maps"⟩], [], []⟩
    let document : Document := .ofMembers [("id", .string "i1"), ("owner", .string "casey"),
      ("tags", .string "maps"), ("type", .string "Form")]
    first.SpelledAlike second ∧
      first.criteria .epoch .all = second.criteria .epoch .all ∧
      (first.explainThrough source .epoch document).map QueryExplanation.outcome =
        (second.explainThrough source .epoch document).map QueryExplanation.outcome ∧
      (first.explainThrough source .epoch document).map QueryExplanation.matched =
        ⟨["i1", "i1"], .ok false⟩ := by
  intro first second source document
  have alike : first.SpelledAlike second := by
    refine ⟨rfl, .cons ⟨rfl, .cons ?_ .nil⟩ (.cons ⟨rfl, .cons ?_ .nil⟩ .nil)⟩
    · exact .cons ⟨rfl, .listed rfl rfl rfl (.cons (.same "$storymap") (.cons (.same "Form") .nil))⟩
        (.cons ⟨rfl, .listed rfl rfl rfl (.cons (.same "maps") .nil)⟩ .nil)
    · have named : SameText subFiltersField "$dashboard" "dashboard" :=
        @SameText.unmarked _ "dashboard" rfl rfl
      refine .cons ⟨rfl, .listed rfl rfl rfl (.cons named .nil)⟩
        (.cons ⟨rfl, .listed rfl rfl rfl (.cons (.same "g1") .nil)⟩ (.cons ⟨rfl, ?_⟩ .nil))
      exact .options rfl ⟨.some (.cons (.same "casey") .nil), rfl, rfl, rfl⟩
  obtain ⟨criteria, _, _, outcome⟩ := alike.outcome_eq .epoch
  exact ⟨alike, criteria .all, outcome source document, rfl⟩

end CatalogSearch
