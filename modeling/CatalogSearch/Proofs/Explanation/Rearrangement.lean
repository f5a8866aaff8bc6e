import CatalogSearch.Proofs.Criteria.Policies
import CatalogSearch.Proofs.Expansion.Rearrangement
import CatalogSearch.Proofs.Explanation.Outcome

/-!
# Verdicts do not depend on the order of a query

Whether criteria match is a combination of truth values in which the order plays no part
(`Query.Rearranged.holds_criteria_eq`). Explaining fails or succeeds field by field, if every
identifier is always answered alike (`Query.exists_explanation_iff`), and the outcomes of fields are
combined likewise. So a query can list its filters, their predicates and the fields of these in any
order (`Query.Rearranged.verdict_kept`).
-/

namespace CatalogSearch

/-- A connective combines truth values without regard to their order. -/
theorem Connective.combine_perm (connective : Connective) {first second : List Bool}
    (order : first.Perm second) : connective.combine first = connective.combine second := by
  cases connective with
  | and => exact order.all_eq
  | or => exact order.any_eq

/-- All elements pass a test where those of another list with the same outcomes, in some order, do.
-/
theorem all_eq_of_perm_map {α β : Type} {test : α → Bool} {other : β → Bool} {first : List α}
    {second : List β} (order : (first.map test).Perm (second.map other)) :
    first.all test = second.all other := by
  have all := Connective.and.combine_perm order
  simpa only [Connective.combine, List.all_map, Function.id_comp] using all

section Criteria

variable {now : Instant} {policy : FieldPolicy} {document : Document}

/-- The truth value of the conjunction of a predicate, if there is one, does not depend on the order
of its fields. -/
theorem Predicate.Rearranged.holds_conjunction?_eq {first second : Predicate}
    (rearranged : first.Rearranged second) :
    (first.conjunction? now policy).map (Conjunction.holds document) =
      (second.conjunction? now policy).map (Conjunction.holds document) := by
  have clauses := (List.Perm.filter (fun entry => policy entry.1) rearranged).filterMap
    fun entry => Clause.ofTests? entry.1 (entry.2.tests now entry.1)
  rw [conjunction?_eq, conjunction?_eq]
  dsimp only
  rw [clauses.isEmpty_eq]
  split
  · rfl
  · exact congrArg some clauses.all_eq

/-- The truth value of the group of a filter, if it has one, does not depend on the order of its
predicates. -/
theorem Filter.Rearranged.holds_criteriaGroup?_eq {first second : Filter}
    (rearranged : first.Rearranged second) :
    (first.criteriaGroup? now policy).map (CriteriaGroup.holds document) =
      (second.criteriaGroup? now policy).map (CriteriaGroup.holds document) := by
  have outcomes : ((first.predicates.filterMap (Predicate.conjunction? now policy)).map
      (Conjunction.holds document)).Perm ((second.predicates.filterMap
        (Predicate.conjunction? now policy)).map (Conjunction.holds document)) := by
    rw [List.map_filterMap, List.map_filterMap]
    exact rearranged.predicates.perm_filterMap fun _ _ predicates =>
      predicates.holds_conjunction?_eq
  have sameLevel := outcomes.isEmpty_eq
  rw [List.isEmpty_map, List.isEmpty_map] at sameLevel
  unfold criteriaGroup?
  dsimp only
  rw [sameLevel, rearranged.connective]
  split
  · rfl
  · exact congrArg some (second.connective.combine_perm outcomes)

namespace Query.Rearranged

variable {first second : Query} (rearranged : first.Rearranged second)

include rearranged

/-- The truth value of criteria does not depend on the order of the query. -/
theorem holds_criteria_eq :
    (first.criteria now policy).holds document = (second.criteria now policy).holds document := by
  have outcomes : ((first.criteria now policy).groups.map (CriteriaGroup.holds document)).Perm
      ((second.criteria now policy).groups.map (CriteriaGroup.holds document)) := by
    rw [criteria, criteria, List.map_filterMap, List.map_filterMap]
    exact (rearranged.expand now).filters.perm_filterMap fun _ _ filters =>
      filters.holds_criteriaGroup?_eq
  exact all_eq_of_perm_map outcomes

/-- A rearranged query has the same predicates, rearranged, in some order. -/
theorem predicates : ReorderedBy Predicate.Rearranged first.predicates second.predicates :=
  rearranged.filters.flatMap fun _ _ filters => filters.predicates

/-- A rearranged query searches no free text if the query does not. -/
theorem withoutFreeText (evaluable : first.WithoutFreeText) : second.WithoutFreeText := by
  have terms := rearranged.predicates.perm_map fun _ _ predicates =>
    congrArg (fun condition => condition.bind FieldCondition.asText?)
      (predicates.get?_eq termField)
  intro predicate member
  have inside := terms.mem_iff.mpr (List.mem_map_of_mem member)
  obtain ⟨original, originalMember, same⟩ := List.mem_map.mp inside
  exact same.symm.trans (evaluable original originalMember)

end Query.Rearranged

end Criteria

section Explanation

variable {directory : GroupDirectory} {now : Instant} {document : Document}

/-- Whether a field that can be explained matches. -/
def Explain.verdict (directory : GroupDirectory) (document : Document)
    (entry : String × FieldCondition) : Bool :=
  match (field directory document entry).result with
  | .ok reasons => reasons.all Reason.matched
  | .error _ => false

/-- A query for items is explained exactly if all fields of its expansion are. -/
theorem Query.exists_explanation_iff {query : Query} (items : query.target = .item) :
    (∃ explanation, (query.explain directory now document).result = .ok explanation) ↔
      ∀ entry ∈ (query.expand now).entries, ∃ reasons,
        (Explain.field directory document entry).result = .ok reasons := by
  rw [explain, (sameCourse_explainThrough items _ now document).exists_ok_iff]
  constructor
  · rintro ⟨results, explained⟩ entry member
    obtain ⟨_, reasons, given⟩ := Lookups.exists_of_forAll explained entry member
    exact ⟨reasons, given⟩
  · intro fields
    exact Lookups.exists_results_of_forall (fun entry _ => Explain.calls_field entry)
      fun _ entry found => fields entry (List.mem_of_getElem? found)

namespace Query.Rearranged

variable {first second : Query} (rearranged : first.Rearranged second)

include rearranged

/-- A rearranged query has the same fields in some order. -/
theorem perm_entries : first.entries.Perm second.entries := by
  have entries : ReorderedBy Eq first.entries second.entries :=
    rearranged.predicates.flatMap fun _ _ predicates =>
      ⟨_, predicates, List.forall₂_eq_eq_eq ▸ rfl⟩
  simpa using entries.perm_map fun _ _ => id

/-- Filters that hold when their predicates have given truth values do so in every order. -/
theorem all_holdsUnder_eq {truth : Predicate → Bool}
    (kept : ∀ ⦃predicate other⦄, predicate.Rearranged other → truth predicate = truth other) :
    first.filters.all (Filter.holdsUnder truth) =
      second.filters.all (Filter.holdsUnder truth) := by
  refine all_eq_of_perm_map (rearranged.filters.perm_map fun one other filters => ?_)
  rw [Filter.holdsUnder, Filter.holdsUnder, filters.connective]
  exact other.connective.combine_perm (filters.predicates.perm_map kept)

/-- Whether a query is explained does not depend on its order. -/
theorem exists_explanation_iff :
    (∃ explanation, (first.explain directory now document).result = .ok explanation) ↔
      ∃ explanation, (second.explain directory now document).result = .ok explanation := by
  by_cases items : first.target = .item
  · rw [Query.exists_explanation_iff items,
      Query.exists_explanation_iff (rearranged.target.symm.trans items)]
    simp only [(rearranged.expand now).perm_entries.mem_iff]
  · -- Queries for anything else are refused before their order plays a part.
    have refused {query : Query} (others : query.target ≠ .item) :
        ¬∃ explanation, (query.explain directory now document).result = .ok explanation := by
      rintro ⟨_, explained⟩
      exact others (explainThrough_eq_ok.mp explained).1
    exact iff_of_false (refused items) (refused (rearranged.target ▸ items))

/-- Explanations of a query in different orders have the same verdict. -/
theorem matched_eq {explanation other : QueryExplanation}
    (explained : (first.explain directory now document).result = .ok explanation)
    (others : (second.explain directory now document).result = .ok other) :
    explanation.matched = other.matched := by
  have verdict {query : Query} {explanation : QueryExplanation}
      (explained : (query.explain directory now document).result = .ok explanation) :
      explanation.matched = (query.expand now).filters.all (Filter.holdsUnder fun predicate =>
        predicate.entries.all (Explain.verdict directory document)) :=
    matched_of_explain_of_fields explained fun _ _ _ _ entry _ reasons given => by
      rw [Explain.verdict, given]
  rw [verdict explained, verdict others]
  exact (rearranged.expand now).all_holdsUnder_eq fun _ _ predicates => predicates.all_eq

/-- **The order of a query does not matter.** A query can list its filters, their predicates and the
fields of these in any order, whatever the order in which shortcuts then split filters. Without free
text its criteria give the same verdict under every policy. With a directory that gives the same
answer whenever it is asked for an identifier, a document is explained in both orders or in none,
and with the same verdict. -/
theorem verdict_kept (now : Instant) (document : Document) :
    (first.WithoutFreeText → ∀ policy, (first.criteria now policy).matches document =
      (second.criteria now policy).matches document) ∧
    ∀ directory,
      ((∃ explanation, (first.explain directory now document).result = .ok explanation) ↔
        ∃ explanation, (second.explain directory now document).result = .ok explanation) ∧
      ∀ explanation other, (first.explain directory now document).result = .ok explanation →
        (second.explain directory now document).result = .ok other →
          explanation.matched = other.matched := by
  refine ⟨fun evaluable policy => ?_, fun directory =>
    ⟨rearranged.exists_explanation_iff, fun _ _ => rearranged.matched_eq⟩⟩
  rw [Criteria.matches_eq_holds (withoutFreeText_criteria evaluable),
    Criteria.matches_eq_holds (withoutFreeText_criteria (rearranged.withoutFreeText evaluable)),
    rearranged.holds_criteria_eq]

end Query.Rearranged

/-- Two shortcuts that split a filter, in two orders. -/
theorem Query.Rearranged.verdict_kept_split :
    let storyMaps : Predicate := .ofEntries [("type", .text "$storymap"), ("owner", .text "casey")]
    let storyMapsOfOwner : Predicate :=
      .ofEntries [("owner", .text "casey"), ("type", .text "$storymap")]
    let dashboards : Predicate := .ofEntries [("subFilters", .text "dashboard")]
    let tagged : Predicate := .ofEntries [("tags", .text "maps")]
    let grouped : Filter := ⟨.or, [.ofEntries [("group", .text "g1")]]⟩
    let first : Query := ⟨.item, [⟨.and, [storyMaps, dashboards, tagged]⟩, grouped]⟩
    let second : Query := ⟨.item, [grouped, ⟨.and, [dashboards, storyMapsOfOwner, tagged]⟩]⟩
    let directory : GroupDirectory := fun _ => .ok ⟨[⟨"g1", "Maps"⟩], [], []⟩
    let document : Document := .ofMembers [("id", .string "i1"), ("owner", .string "casey"),
      ("tags", .string "maps"), ("type", .string "Web Map")]
    first.Rearranged second ∧ first.WithoutFreeText ∧
      (first.criteria .epoch .all).matches document =
        (second.criteria .epoch .all).matches document ∧
      ∃ explanation other, (first.explain directory .epoch document).result = .ok explanation ∧
        (second.explain directory .epoch document).result = .ok other ∧
          explanation.matched = other.matched := by
  intro storyMaps storyMapsOfOwner dashboards tagged grouped first second directory document
  have rearranged : first.Rearranged second := by
    refine ⟨rfl, [grouped, ⟨.and, [storyMaps, dashboards, tagged]⟩], .swap _ _ _, ?_⟩
    refine .cons ⟨rfl, .of_forall₂ (.cons (.refl _) .nil)⟩ (.cons ⟨rfl, ?_⟩ .nil)
    exact ⟨[dashboards, storyMaps, tagged], .swap _ _ _,
      .cons (.refl _) (.cons (.swap _ _ _) (.cons (.refl _) .nil))⟩
  have evaluable : first.WithoutFreeText := by
    unfold WithoutFreeText
    decide
  obtain ⟨matching, explaining⟩ := rearranged.verdict_kept .epoch document
  obtain ⟨both, verdicts⟩ := explaining directory
  obtain ⟨explanation, explained⟩ : ∃ explanation,
      (first.explain directory .epoch document).result = .ok explanation := ⟨_, rfl⟩
  obtain ⟨other, others⟩ := both.mp ⟨explanation, explained⟩
  exact ⟨rearranged, evaluable, matching evaluable .all, explanation, other, explained, others,
    verdicts explanation other explained others⟩

end Explanation

end CatalogSearch
