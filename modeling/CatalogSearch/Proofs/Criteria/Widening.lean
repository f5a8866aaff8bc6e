import CatalogSearch.Proofs.Criteria.WellFormed

/-!
# Criteria on fewer fields

A policy that includes fewer fields gives a predicate fewer clauses, so its conjunction is met by
more documents (`Predicate.exists_wider_conjunction`). A disjunction takes part in this as long as
it loses none of its alternatives or all of them, and then the criteria match whatever they matched
under the wider policy (`Query.matches_criteria_narrowed`).
-/

namespace CatalogSearch

/-- Whether a policy includes only fields that another one includes. -/
def FieldPolicy.IsWithin (narrow wide : FieldPolicy) : Prop :=
  ∀ field, narrow field = true → wide field = true

/-- Whether a disjunction has, under the first policy, either no conjunction or one for every
predicate that has one under the second. -/
def Filter.KeepsAlternatives (now : Instant) (narrow wide : FieldPolicy) (filter : Filter) : Prop :=
  filter.connective = .or →
    (∀ predicate ∈ filter.predicates, predicate.conjunction? now narrow = none) ∨
      ∀ predicate ∈ filter.predicates, predicate.conjunction? now wide ≠ none →
        predicate.conjunction? now narrow ≠ none

section Narrowing

variable {now : Instant} {narrow wide : FieldPolicy}

variable (within : narrow.IsWithin wide)

include within

/-- The conjunction of a predicate under the wider policy has all clauses of the one under the
narrower policy. -/
theorem Predicate.exists_wider_conjunction {predicate : Predicate} {few : Conjunction}
    (lowered : predicate.conjunction? now narrow = some few) :
    ∃ many, predicate.conjunction? now wide = some many ∧
      ∀ clause ∈ few.clauses, clause ∈ many.clauses := by
  cases widened : predicate.conjunction? now wide with
  | none =>
      rw [conjunction?_eq_none] at widened
      have nothing : predicate.conjunction? now narrow = none :=
        conjunction?_eq_none.mpr fun entry member included =>
          widened entry member (within entry.1 included)
      rw [nothing] at lowered
      cases lowered
  | some many =>
      refine ⟨many, rfl, fun clause member => ?_⟩
      obtain ⟨condition, held, included, tests, content⟩ := (mem_clauses_iff lowered).mp member
      apply (mem_clauses_iff widened).mpr
      exact ⟨condition, held, within clause.field included, tests, content⟩

/-- What holds with more fields of a predicate holds with fewer. -/
theorem Predicate.holds_narrowed {predicate : Predicate} {few many : Conjunction}
    {document : Document} (lowered : predicate.conjunction? now narrow = some few)
    (widened : predicate.conjunction? now wide = some many)
    (holds : many.holds document = true) : few.holds document = true := by
  obtain ⟨_, same, inside⟩ := exists_wider_conjunction within lowered
  obtain rfl := Option.some.inj (widened.symm.trans same)
  rw [Conjunction.holds, List.all_eq_true] at holds ⊢
  exact fun clause member => holds clause (inside clause member)

/-- The group of a filter under the wider policy holds only where the one under the narrower policy
does, if no alternative of a disjunction is lost. -/
theorem Filter.holds_narrowed {filter : Filter} {few : CriteriaGroup} {document : Document}
    (kept : filter.KeepsAlternatives now narrow wide)
    (lowered : filter.criteriaGroup? now narrow = some few) :
    ∃ many, filter.criteriaGroup? now wide = some many ∧
      (many.holds document = true → few.holds document = true) := by
  obtain ⟨content, connective, conjunctions⟩ := criteriaGroup?_eq_some.mp lowered
  obtain ⟨first, firstMember⟩ := List.exists_mem_of_ne_nil _ content
  rw [conjunctions] at firstMember
  obtain ⟨asking, askingMember, asked⟩ := List.mem_filterMap.mp firstMember
  obtain ⟨wider, askedWidely, _⟩ := Predicate.exists_wider_conjunction within asked
  have more : filter.predicates.filterMap (Predicate.conjunction? now wide) ≠ [] :=
    List.ne_nil_of_mem (List.mem_filterMap.mpr ⟨asking, askingMember, askedWidely⟩)
  refine ⟨⟨filter.connective, _⟩, criteriaGroup?_eq_some.mpr ⟨more, rfl, rfl⟩, ?_⟩
  rw [CriteriaGroup.holds, CriteriaGroup.holds, connective, conjunctions]
  cases kind : filter.connective with
  | and =>
      simp only [Connective.combine, List.all_map, List.all_eq_true, Function.comp_apply, id_eq]
      intro holds conjunction member
      obtain ⟨predicate, inside, narrowed⟩ := List.mem_filterMap.mp member
      obtain ⟨many, widened, _⟩ := Predicate.exists_wider_conjunction within narrowed
      apply Predicate.holds_narrowed within narrowed widened
      exact holds many (List.mem_filterMap.mpr ⟨predicate, inside, widened⟩)
  | or =>
      simp only [Connective.combine, List.any_map, List.any_eq_true, Function.comp_apply, id_eq]
      rintro ⟨many, member, holds⟩
      obtain ⟨predicate, inside, widened⟩ := List.mem_filterMap.mp member
      rcases kept kind with none | all
      · exact absurd (asked.symm.trans (none asking askingMember)) (Option.some_ne_none first)
      · have remains := all predicate inside (widened ▸ Option.some_ne_none many)
        obtain ⟨conjunction, narrowed⟩ := Option.ne_none_iff_exists'.mp remains
        refine ⟨conjunction, List.mem_filterMap.mpr ⟨predicate, inside, narrowed⟩, ?_⟩
        exact Predicate.holds_narrowed within narrowed widened holds

/-- What holds with more fields of a query holds with fewer, as long as no alternative is lost. -/
theorem Query.holds_narrowed {query : Query} {document : Document}
    (kept : ∀ filter ∈ (query.expand now).filters, filter.KeepsAlternatives now narrow wide)
    (holds : (query.criteria now wide).holds document = true) :
    (query.criteria now narrow).holds document = true := by
  rw [Criteria.holds, List.all_eq_true] at holds ⊢
  intro few member
  obtain ⟨filter, inside, lowered⟩ := List.mem_filterMap.mp member
  obtain ⟨many, widened, implies⟩ := Filter.holds_narrowed within (kept filter inside) lowered
  exact implies (holds many (List.mem_filterMap.mpr ⟨filter, inside, widened⟩))

/-- **Leaving out fields widens criteria.** When a policy includes only fields that another one
includes, a document that matches the criteria of the other one matches its criteria too, provided
that the query asks for no free text and that every disjunction of its expansion loses all of its
alternatives or none. -/
theorem Query.matches_criteria_narrowed {query : Query} (evaluable : query.WithoutFreeText)
    (kept : ∀ filter ∈ (query.expand now).filters, filter.KeepsAlternatives now narrow wide)
    {document : Document} (matched : (query.criteria now wide).matches document = .ok true) :
    (query.criteria now narrow).matches document = .ok true := by
  rw [Criteria.matches_eq_holds (withoutFreeText_criteria evaluable)] at matched ⊢
  rw [holds_narrowed within kept (Except.ok.inj matched)]

end Narrowing

/-- Story maps of an owner, of which a policy without owners and keywords still asks for both kinds,
and a disjunction that it leaves out as a whole. -/
theorem Query.matches_criteria_narrowed_storyMap :
    let query : Query := ⟨.item, [
      ⟨.and, [.ofEntries [("type", .text "$storymap"), ("owner", .text "casey")]]⟩,
      ⟨.or, [.ofEntries [("tags", .text "water")], .ofEntries [("access", .text "public")]]⟩]⟩
    let narrow : FieldPolicy := fun field => field == "type"
    let wide : FieldPolicy := fun field => field != "access"
    let document : Document := .ofMembers [("type", .string "StoryMap"),
      ("owner", .string "casey"), ("tags", .ofStrings ["maps", "water"])]
    narrow.IsWithin wide ∧ query.WithoutFreeText ∧
      (∀ filter ∈ (query.expand .epoch).filters,
        filter.KeepsAlternatives .epoch narrow wide) ∧
      (query.criteria .epoch wide).matches document = .ok true ∧
      (query.criteria .epoch narrow).matches document = .ok true := by
  intro query narrow wide document
  have within : narrow.IsWithin wide := by
    intro field included
    obtain rfl := eq_of_beq included
    rfl
  have evaluable : query.WithoutFreeText := by
    unfold WithoutFreeText
    decide
  have kept : ∀ filter ∈ (query.expand .epoch).filters,
      filter.KeepsAlternatives .epoch narrow wide := by
    unfold Filter.KeepsAlternatives
    decide
  exact ⟨within, evaluable, kept, rfl, matches_criteria_narrowed within evaluable kept rfl⟩

end CatalogSearch
