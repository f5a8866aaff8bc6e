import CatalogSearch.Proofs.Criteria.WellFormed
import CatalogSearch.Proofs.Expansion.NormalForm
import Mathlib.Data.List.Forall2

/-!
# The shape of criteria

Criteria follow the expanded query in order and leave out whatever has no tests
(`Query.stemsFrom_expand`). What is left has the shape that renderers rely on: no level is empty, a
conjunction has one clause for a field at most, and the tests of a clause are a single one or those
of match options, in the order of their parts (`Query.isWellFormed_criteria`).
-/

namespace CatalogSearch

/-- The tests of match options whose parts have the given texts. -/
def FieldTest.ofParts (any all not exact : Option (List String)) : List FieldTest :=
  (any.map .anyOf).toList ++ (all.map .allOf).toList ++ (not.map .noneOf).toList ++
    (exact.map .exact).toList

/-- Whether a clause has tests, with texts to compare, on a field that the policy includes and that
names no shortcuts. On types it asks for no shortcut, free text stands alone in the field for it,
and several tests are those of match options. -/
structure Clause.IsWellFormed (policy : FieldPolicy) (clause : Clause) : Prop where
  content : clause.tests ≠ []
  texts : ∀ test ∈ clause.tests, test.WellFormed
  included : policy clause.field = true
  notNames : clause.field ≠ subFiltersField
  resolved : clause.field = typeField → ∀ texts, .anyOf texts ∈ clause.tests →
    ∀ text ∈ texts, Shortcut.isShortcut text = false
  freeText : ∀ text, .freeText text ∈ clause.tests →
    clause.field = termField ∧ clause.tests = [.freeText text]
  ordered : 1 < clause.tests.length →
    ∃ any all not exact, clause.tests = FieldTest.ofParts any all not exact

/-- Whether a conjunction has well-formed clauses, at most one of them for a field. -/
structure Conjunction.IsWellFormed (policy : FieldPolicy) (conjunction : Conjunction) : Prop where
  content : conjunction.clauses ≠ []
  distinct : (conjunction.clauses.map Clause.field).Nodup
  clauses : ∀ clause ∈ conjunction.clauses, clause.IsWellFormed policy

/-- Whether a group has conjunctions, all of them well formed. -/
structure CriteriaGroup.IsWellFormed (policy : FieldPolicy) (group : CriteriaGroup) : Prop where
  content : group.conjunctions ≠ []
  conjunctions : ∀ conjunction ∈ group.conjunctions, conjunction.IsWellFormed policy

/-- Whether a clause has the tests of a condition on its field. -/
def Clause.StemsFrom (now : Instant) (clause : Clause) (entry : String × FieldCondition) : Prop :=
  clause = ⟨entry.1, entry.2.tests now entry.1⟩

/-- Whether the clauses are those of some of the conditions of a predicate, in order. -/
def Conjunction.StemsFrom (now : Instant) (conjunction : Conjunction) (predicate : Predicate) :
    Prop :=
  List.SublistForall₂ (Clause.StemsFrom now) conjunction.clauses predicate.entries

/-- Whether a group combines conjunctions of some of the predicates of a filter, in order, as the
filter does. -/
structure CriteriaGroup.StemsFrom (now : Instant) (group : CriteriaGroup) (filter : Filter) :
    Prop where
  connective : group.connective = filter.connective
  conjunctions :
    List.SublistForall₂ (Conjunction.StemsFrom now) group.conjunctions filter.predicates

/-- What a partial function finds for the elements of a list follows the list in order. -/
theorem sublistForall₂_filterMap {α β : Type} {find : α → Option β} {relation : β → α → Prop}
    (each : ∀ element found, find element = some found → relation found element)
    (elements : List α) : List.SublistForall₂ relation (elements.filterMap find) elements := by
  induction elements with
  | nil => exact .nil
  | cons first rest ih =>
      cases found : find first with
      | none =>
          rw [List.filterMap_cons_none found]
          exact .cons_right ih
      | some value =>
          rw [List.filterMap_cons_some found]
          exact .cons (each first value found) ih

section Order

variable {now : Instant} {policy : FieldPolicy}

/-- The conjunction of a predicate stems from it. -/
theorem Predicate.stemsFrom (predicate : Predicate) {conjunction : Conjunction}
    (lowered : predicate.conjunction? now policy = some conjunction) :
    conjunction.StemsFrom now predicate := by
  simp only [conjunction?, Option.ite_none_left_eq_some, Option.some.injEq] at lowered
  obtain ⟨_, rfl⟩ := lowered
  have clauses : List.SublistForall₂ (Clause.StemsFrom now) _
      (predicate.entries.filter fun entry => policy entry.1) :=
    sublistForall₂_filterMap (fun _ _ found => (Clause.ofTests?_eq_some.mp found).2) _
  obtain ⟨kept, related, inside⟩ := List.sublistForall₂_iff.mp clauses
  exact List.sublistForall₂_iff.mpr ⟨kept, related, inside.trans List.filter_sublist⟩

/-- The fields of a conjunction are fields of its predicate, in order. -/
theorem Conjunction.StemsFrom.map_field_sublist {conjunction : Conjunction} {predicate : Predicate}
    (stems : conjunction.StemsFrom now predicate) :
    (conjunction.clauses.map Clause.field).Sublist predicate.fields := by
  obtain ⟨kept, related, inside⟩ := List.sublistForall₂_iff.mp stems
  have same : conjunction.clauses.map Clause.field = kept.map Prod.fst :=
    map_eq_of_forall₂ related fun _ _ stems => congrArg Clause.field stems
  rw [same]
  exact inside.map Prod.fst

/-- The group of a filter stems from it. -/
theorem Filter.stemsFrom (filter : Filter) {group : CriteriaGroup}
    (grouped : filter.criteriaGroup? now policy = some group) : group.StemsFrom now filter := by
  obtain ⟨_, connective, conjunctions⟩ := criteriaGroup?_eq_some.mp grouped
  refine ⟨connective, conjunctions ▸ ?_⟩
  exact sublistForall₂_filterMap (fun predicate _ => predicate.stemsFrom) _

/-- The groups of criteria are those of some filters of the expanded query, in order. -/
theorem Query.stemsFrom_expand (query : Query) :
    List.SublistForall₂ (CriteriaGroup.StemsFrom now) (query.criteria now policy).groups
      (query.expand now).filters :=
  sublistForall₂_filterMap (fun filter _ => filter.stemsFrom) _

end Order

namespace FieldCondition

variable {now : Instant} {field : String} {condition : FieldCondition}

/-- The texts of an any-of test are among those of which the condition asks for one. -/
theorem mem_choices_of_mem_tests {texts : List String}
    (member : .anyOf texts ∈ condition.tests now field) : ∀ text ∈ texts, text ∈ condition.choices
    := by
  cases condition with
  | text value =>
      by_cases term : field = termField <;> simp [tests, term] at member
  | list values =>
      cases values with
      | nil => simp [tests] at member
      | cons first rest =>
          simp only [tests, List.isEmpty_cons, Bool.false_eq_true, ↓reduceIte,
            List.mem_singleton, FieldTest.anyOf.injEq] at member
          exact fun text inside => member ▸ inside
  | options options =>
      simp only [tests, MatchOptions.tests, List.mem_append, MatchOptions.mem_partTests_iff,
        reduceCtorEq, and_false, exists_false, or_false, FieldTest.anyOf.injEq,
        exists_eq_right] at member
      obtain ⟨_, given, any, rfl⟩ := MatchOptions.nonempty?_eq_some.mp member
      intro text inside
      rwa [choices, any, Option.map_some, Option.getD_some]
  | _ => simp [tests] at member

/-- A test of free text is the only one of its condition. -/
theorem eq_singleton_of_freeText_mem_tests {text : String}
    (member : .freeText text ∈ condition.tests now field) :
    field = termField ∧ condition.tests now field = [.freeText text] := by
  obtain ⟨term, value, rfl⟩ := eq_text_of_isFreeText member rfl
  have alone : (FieldCondition.text value).tests now field = [.freeText value] := if_pos term
  rw [alone, List.mem_singleton] at member
  exact ⟨term, by rw [alone, member]⟩

/-- Only match options have several tests. -/
theorem exists_parts_of_length_tests (several : 1 < (condition.tests now field).length) :
    ∃ any all not exact, condition.tests now field = FieldTest.ofParts any all not exact := by
  cases condition with
  | text value => by_cases term : field = termField <;> simp [tests, term] at several
  | list values => cases values <;> simp [tests] at several
  | options options => exact ⟨_, _, _, _, rfl⟩
  | _ => simp [tests] at several

end FieldCondition

section Shape

variable {now : Instant} {policy : FieldPolicy} {predicate : Predicate} {conjunction : Conjunction}
  (normal : predicate.IsNormal) (lowered : predicate.conjunction? now policy = some conjunction)

include normal lowered

/-- The clauses of a normal predicate are well formed. -/
theorem Predicate.IsNormal.isWellFormed_clause {clause : Clause}
    (member : clause ∈ conjunction.clauses) : clause.IsWellFormed policy := by
  obtain ⟨field, held⟩ := clause
  obtain ⟨condition, inside, included, tests, content⟩ := (mem_clauses_iff lowered).mp member
  dsimp only at inside included tests content
  subst tests
  have given := get?_eq_some_iff.mpr inside
  refine ⟨content, fun _ => FieldCondition.wellFormed_of_mem_tests, included, ?_, ?_,
    fun _ => FieldCondition.eq_singleton_of_freeText_mem_tests,
    FieldCondition.exists_parts_of_length_tests⟩
  · rintro rfl
    exact absurd (normal.withoutSubFilters.symm.trans given) (Option.some_ne_none condition).symm
  · rintro rfl texts asked text listed
    exact FieldCondition.isShortcut_of_mem_choices (normal.plain condition given) text
      (FieldCondition.mem_choices_of_mem_tests asked text listed)

/-- The conjunction of a normal predicate is well-formed. -/
theorem Predicate.IsNormal.isWellFormed_conjunction : conjunction.IsWellFormed policy where
  content := clauses_ne_nil lowered
  distinct := predicate.distinct.sublist (predicate.stemsFrom lowered).map_field_sublist
  clauses := fun _ => normal.isWellFormed_clause lowered

end Shape

/-- **The shape of criteria.** All groups of the criteria of a query are well formed, and they are
those of filters of the expanded query, in order and at most as many. -/
theorem Query.isWellFormed_criteria (query : Query) (now : Instant) (policy : FieldPolicy) :
    (∀ group ∈ (query.criteria now policy).groups, group.IsWellFormed policy) ∧
      (query.criteria now policy).groups.length ≤ (query.expand now).filters.length ∧
      List.SublistForall₂ (CriteriaGroup.StemsFrom now) (query.criteria now policy).groups
        (query.expand now).filters := by
  refine ⟨fun group groupMember => ?_, List.length_filterMap_le _ _, stemsFrom_expand query⟩
  obtain ⟨filter, filterMember, grouped⟩ := List.mem_filterMap.mp groupMember
  obtain ⟨content, _, conjunctions⟩ := Filter.criteriaGroup?_eq_some.mp grouped
  refine ⟨content, fun conjunction conjunctionMember => ?_⟩
  obtain ⟨predicate, inside, lowered⟩ := List.mem_filterMap.mp (conjunctions ▸ conjunctionMember)
  exact (isNormal_expand now query predicate
    (List.mem_flatMap.mpr ⟨filter, filterMember, inside⟩)).isWellFormed_conjunction lowered

end CatalogSearch
