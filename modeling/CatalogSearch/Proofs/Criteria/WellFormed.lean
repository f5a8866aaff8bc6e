import CatalogSearch.Proofs.Criteria.Truth
import CatalogSearch.Proofs.Expansion.Restructuring

/-!
# Well-formed criteria

Every test of the criteria of a query comes from a condition of the expanded query on a field that
the policy includes (`Query.everyTest_criteria`), and no level of the criteria is without content
(`Query.consistsOf_criteria`).
-/

namespace CatalogSearch

/-- A part has texts exactly if it is present and not empty. -/
theorem MatchOptions.nonempty?_eq_some {part : Option Texts} {texts : List String} :
    nonempty? part = some texts ↔
      texts ≠ [] ∧ ∃ given, part = some given ∧ given.toList = texts := by
  cases part with
  | none => simp [nonempty?]
  | some given =>
      by_cases empty : given.toList = []
      · simp only [nonempty?, Texts.isEmpty, empty, List.isEmpty_nil, ↓reduceIte, reduceCtorEq,
          Option.some.injEq, exists_eq_left', false_iff, not_and]
        exact fun content same => content same.symm
      · have content : given.isEmpty = false := by simpa [Texts.isEmpty] using empty
        simp only [nonempty?, content, Bool.false_eq_true, ↓reduceIte, Option.some.injEq,
          exists_eq_left']
        exact ⟨fun same => ⟨same ▸ empty, same⟩, And.right⟩

namespace FieldTest

/-- The texts that a test compares a field with. -/
def texts : FieldTest → List String
  | .equals text => [text]
  | .anyOf texts => texts
  | .allOf texts => texts
  | .noneOf texts => texts
  | .exact texts => texts
  | _ => []

/-- Whether a test that compares a field with a list of texts has some. -/
def WellFormed : FieldTest → Prop
  | .anyOf texts => texts ≠ []
  | .allOf texts => texts ≠ []
  | .noneOf texts => texts ≠ []
  | .exact texts => texts ≠ []
  | _ => True

end FieldTest

/-- Whether a clause has tests, all of them with a property. -/
def Clause.ConsistsOf (property : String → FieldTest → Prop) (clause : Clause) : Prop :=
  clause.tests ≠ [] ∧ ∀ test ∈ clause.tests, property clause.field test

/-- Whether a conjunction has clauses, all of them consisting of tests with a property. -/
def Conjunction.ConsistsOf (property : String → FieldTest → Prop) (conjunction : Conjunction) :
    Prop :=
  conjunction.clauses ≠ [] ∧ ∀ clause ∈ conjunction.clauses, clause.ConsistsOf property

/-- Whether a group has conjunctions, all of them consisting of tests with a property. -/
def CriteriaGroup.ConsistsOf (property : String → FieldTest → Prop) (group : CriteriaGroup) :
    Prop :=
  group.conjunctions ≠ [] ∧ ∀ conjunction ∈ group.conjunctions, conjunction.ConsistsOf property

/-- A part of match options has a test when it has texts. -/
theorem MatchOptions.mem_partTests_iff {part : Option Texts} {make : List String → FieldTest}
    {test : FieldTest} : test ∈ partTests part make ↔
      ∃ texts, nonempty? part = some texts ∧ make texts = test := by
  simp only [partTests, Option.mem_toList, Option.map_eq_some_iff]

/-- The tests of a condition are well formed. -/
theorem FieldCondition.wellFormed_of_mem_tests {now : Instant} {field : String}
    {condition : FieldCondition} {test : FieldTest} (member : test ∈ condition.tests now field) :
    test.WellFormed := by
  cases condition with
  | text value =>
      by_cases term : field = termField
      · simp only [tests, term, ↓reduceIte, List.mem_singleton] at member
        exact member ▸ trivial
      · simp only [tests, term, ↓reduceIte, List.mem_singleton] at member
        exact member ▸ trivial
  | list values =>
      cases values with
      | nil => simp [tests] at member
      | cons first rest =>
          simp only [tests, List.isEmpty_cons, Bool.false_eq_true, ↓reduceIte,
            List.mem_singleton] at member
          exact member ▸ List.cons_ne_nil first rest
  | options options =>
      simp only [tests, MatchOptions.tests, List.mem_append,
        MatchOptions.mem_partTests_iff] at member
      rcases member with ((⟨texts, found, rfl⟩ | ⟨texts, found, rfl⟩) | ⟨texts, found, rfl⟩) |
        ⟨texts, found, rfl⟩ <;> exact (MatchOptions.nonempty?_eq_some.mp found).1
  | _ =>
      simp only [tests, List.mem_singleton] at member
      exact member ▸ trivial

/-- Tests make a clause exactly if there are any. -/
theorem Clause.ofTests?_eq_some {field : String} {tests : List FieldTest} {clause : Clause} :
    ofTests? field tests = some clause ↔ tests ≠ [] ∧ clause = ⟨field, tests⟩ := by
  cases tests with
  | nil => simp [ofTests?]
  | cons first rest => simp [ofTests?, eq_comm]

section Lowering

variable {now : Instant} {policy : FieldPolicy}

/-- The clauses of a predicate are those that its conditions on included fields have. -/
theorem Predicate.mem_clauses_iff {predicate : Predicate} {conjunction : Conjunction}
    (lowered : predicate.conjunction? now policy = some conjunction) {clause : Clause} :
    clause ∈ conjunction.clauses ↔ ∃ condition, (clause.field, condition) ∈ predicate.entries ∧
      policy clause.field = true ∧ clause.tests = condition.tests now clause.field ∧
        clause.tests ≠ [] := by
  simp only [conjunction?, Option.ite_none_left_eq_some, Option.some.injEq] at lowered
  obtain ⟨_, rfl⟩ := lowered
  simp only [List.mem_filterMap, List.mem_filter, Clause.ofTests?_eq_some, Prod.exists]
  constructor
  · rintro ⟨field, condition, ⟨member, included⟩, content, rfl⟩
    exact ⟨condition, member, included, rfl, content⟩
  · rintro ⟨condition, member, included, same, content⟩
    exact ⟨clause.field, condition, ⟨member, included⟩, same ▸ content, by rw [← same]⟩

/-- A predicate has no conjunction when its conditions on included fields have no tests. -/
theorem Predicate.conjunction?_eq_none {predicate : Predicate} :
    predicate.conjunction? now policy = none ↔
      ∀ entry ∈ predicate.entries, policy entry.1 = true → entry.2.tests now entry.1 = [] := by
  simp only [conjunction?, ite_eq_left_iff, reduceCtorEq, imp_false, Decidable.not_not,
    List.isEmpty_iff, List.filterMap_eq_nil_iff, List.mem_filter, Clause.ofTests?, and_imp]

/-- No conjunction is without clauses. -/
theorem Predicate.clauses_ne_nil {predicate : Predicate} {conjunction : Conjunction}
    (lowered : predicate.conjunction? now policy = some conjunction) :
    conjunction.clauses ≠ [] := by
  simp only [conjunction?, Option.ite_none_left_eq_some, Option.some.injEq] at lowered
  obtain ⟨content, rfl⟩ := lowered
  simpa using content

/-- The group of a filter has its connective and the conjunctions of its predicates. -/
theorem Filter.criteriaGroup?_eq_some {filter : Filter} {group : CriteriaGroup} :
    filter.criteriaGroup? now policy = some group ↔ group.conjunctions ≠ [] ∧
      group.connective = filter.connective ∧
        group.conjunctions = filter.predicates.filterMap (Predicate.conjunction? now policy) := by
  obtain ⟨connective, conjunctions⟩ := group
  simp only [criteriaGroup?, Option.ite_none_left_eq_some, Option.some.injEq,
    CriteriaGroup.mk.injEq, List.isEmpty_iff]
  constructor
  · rintro ⟨content, rfl, rfl⟩
    exact ⟨content, rfl, rfl⟩
  · rintro ⟨content, rfl, rfl⟩
    exact ⟨content, rfl, rfl⟩

/-- A property holds of every test of the criteria if it holds of the tests of every condition of
the expanded query on an included field. -/
theorem Query.everyTest_criteria {property : String → FieldTest → Prop} {query : Query}
    (every : ∀ filter ∈ (query.expand now).filters, ∀ predicate ∈ filter.predicates,
      ∀ entry ∈ predicate.entries, policy entry.1 = true →
        ∀ test ∈ entry.2.tests now entry.1, property entry.1 test) :
    (query.criteria now policy).EveryTest property := by
  intro group groupMember conjunction conjunctionMember clause clauseMember test testMember
  obtain ⟨filter, filterMember, grouped⟩ := List.mem_filterMap.mp groupMember
  obtain ⟨_, _, conjunctions⟩ := Filter.criteriaGroup?_eq_some.mp grouped
  rw [conjunctions] at conjunctionMember
  obtain ⟨predicate, predicateMember, lowered⟩ := List.mem_filterMap.mp conjunctionMember
  obtain ⟨condition, entryMember, included, tests, _⟩ :=
    (Predicate.mem_clauses_iff lowered).mp clauseMember
  exact every filter filterMember predicate predicateMember _ entryMember included test
    (tests ▸ testMember)

theorem Query.included_criteria (query : Query) :
    (query.criteria now policy).EveryTest fun field _ => policy field = true :=
  everyTest_criteria fun _ _ _ _ _ _ included _ _ => included

/-- Whether no predicate of a query has a free text. -/
def Query.WithoutFreeText (query : Query) : Prop :=
  ∀ predicate ∈ query.predicates,
    (predicate.get? termField).bind FieldCondition.asText? = none

/-- Only the text of the field for free text is one. -/
theorem FieldCondition.eq_text_of_isFreeText {field : String} {condition : FieldCondition}
    {test : FieldTest} (member : test ∈ condition.tests now field)
    (freeText : test.isFreeText = true) : field = termField ∧ ∃ text, condition = .text text := by
  cases condition with
  | text value =>
      by_cases term : field = termField
      · exact ⟨term, value, rfl⟩
      · simp only [tests, term, ↓reduceIte, List.mem_singleton] at member
        simp [member, FieldTest.isFreeText] at freeText
  | list values =>
      cases values with
      | nil => simp [tests] at member
      | cons first rest =>
          simp only [tests, List.isEmpty_cons, Bool.false_eq_true, ↓reduceIte,
            List.mem_singleton] at member
          simp [member, FieldTest.isFreeText] at freeText
  | options options =>
      simp only [tests, MatchOptions.tests, List.mem_append,
        MatchOptions.mem_partTests_iff] at member
      rcases member with ((⟨_, _, rfl⟩ | ⟨_, _, rfl⟩) | ⟨_, _, rfl⟩) | ⟨_, _, rfl⟩ <;>
        simp [FieldTest.isFreeText] at freeText
  | _ =>
      simp only [tests, List.mem_singleton] at member
      simp [member, FieldTest.isFreeText] at freeText

/-- An alternative asks for the free text that the predicate asks for. -/
theorem Predicate.get?_termField_of_mem_alternatives {predicate alternative : Predicate}
    (member : alternative ∈ predicate.alternatives) :
    (alternative.expand now).get? termField = predicate.get? termField := by
  have ordinary : IsOrdinary termField := by
    unfold IsOrdinary
    decide
  have kept : (fun condition : FieldCondition => condition.expand now termField) = id := rfl
  rw [get?_expand, kept, Option.map_id, id_eq, get?_of_mem_alternatives member ordinary]

/-- The criteria of a query without free text have none. -/
theorem Query.withoutFreeText_criteria {query : Query} (evaluable : query.WithoutFreeText) :
    (query.criteria now policy).WithoutFreeText := by
  apply everyTest_criteria
  intro filter filterMember predicate predicateMember entry entryMember _ test testMember
  rw [Bool.eq_false_iff]
  intro freeText
  obtain ⟨term, text, asked⟩ := FieldCondition.eq_text_of_isFreeText testMember freeText
  obtain ⟨original, originalMember, alternative, listed, rfl⟩ := origin_of_mem_expand
    (List.mem_flatMap.mpr ⟨filter, filterMember, predicateMember⟩)
  have held := Predicate.get?_eq_some_iff.mpr entryMember
  rw [term, asked, Predicate.get?_termField_of_mem_alternatives listed] at held
  have none := evaluable original originalMember
  rw [held] at none
  exact absurd none (Option.some_ne_none text)

theorem Query.wellFormed_criteria (query : Query) :
    (query.criteria now policy).EveryTest fun _ test => test.WellFormed :=
  everyTest_criteria fun _ _ _ _ _ _ _ _ member => FieldCondition.wellFormed_of_mem_tests member

/-- No level of the criteria is empty. -/
theorem Query.consistsOf_criteria {property : String → FieldTest → Prop} {query : Query}
    (every : (query.criteria now policy).EveryTest property) :
    ∀ group ∈ (query.criteria now policy).groups, group.ConsistsOf property := by
  intro group groupMember
  obtain ⟨filter, _, grouped⟩ := List.mem_filterMap.mp groupMember
  obtain ⟨content, _, conjunctions⟩ := Filter.criteriaGroup?_eq_some.mp grouped
  refine ⟨content, fun conjunction conjunctionMember => ?_⟩
  obtain ⟨predicate, _, lowered⟩ := List.mem_filterMap.mp (conjunctions ▸ conjunctionMember)
  refine ⟨Predicate.clauses_ne_nil lowered, fun clause clauseMember => ?_⟩
  obtain ⟨_, _, _, _, content⟩ := (Predicate.mem_clauses_iff lowered).mp clauseMember
  exact ⟨content, every group groupMember conjunction conjunctionMember clause clauseMember⟩

end Lowering

end CatalogSearch
