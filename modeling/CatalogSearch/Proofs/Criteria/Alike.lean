import CatalogSearch.Proofs.Criteria.Policies
import CatalogSearch.Proofs.Criteria.Truth
import CatalogSearch.Proofs.Expansion.Alike

/-!
# Criteria that compare the same sets

Except for ranges, tests compare sets of texts: it does not matter how these are listed, neither in
a query nor in a document. Queries that are alike have criteria that are alike
(`Query.Alike.criteria`), and these match documents that are alike in the same way
(`Criteria.Alike.matches_eq`).
-/

namespace CatalogSearch

/-- Whether values are compared by the same texts. -/
def Json.Alike (first second : Json) : Prop :=
  SameTexts first.comparands second.comparands

/-- Whether documents have the same fields that are not null, each compared by the same texts. -/
def Document.Alike (first second : Document) : Prop :=
  ∀ field, Option.Rel Json.Alike (first.value? field) (second.value? field)

/-- Whether a test asks for a range. -/
def FieldTest.isBetween : FieldTest → Bool
  | .between _ => true
  | _ => false

/-- Whether no test asks for a range. -/
def Criteria.WithoutRanges (criteria : Criteria) : Prop :=
  criteria.EveryTest fun _ test => test.isBetween = false

/-- Whether tests are the same, up to the way in which they list texts. -/
inductive FieldTest.Alike : FieldTest → FieldTest → Prop where
  | same (test : FieldTest) : Alike test test
  | anyOf {first second : List String} (same : SameTexts first second) :
      Alike (.anyOf first) (.anyOf second)
  | allOf {first second : List String} (same : SameTexts first second) :
      Alike (.allOf first) (.allOf second)
  | noneOf {first second : List String} (same : SameTexts first second) :
      Alike (.noneOf first) (.noneOf second)
  | exact {first second : List String} (same : SameTexts first second) :
      Alike (.exact first) (.exact second)

/-- Whether two clauses have tests on one field that ask for the same texts. -/
structure Clause.Alike (first second : Clause) : Prop where
  field : first.field = second.field
  tests : List.Forall₂ FieldTest.Alike first.tests second.tests

/-- Whether two conjunctions have clauses that are alike, in the same order. -/
def Conjunction.Alike (first second : Conjunction) : Prop :=
  List.Forall₂ Clause.Alike first.clauses second.clauses

/-- Whether two groups combine conjunctions that are alike, in the same order. -/
structure CriteriaGroup.Alike (first second : CriteriaGroup) : Prop where
  connective : first.connective = second.connective
  conjunctions : List.Forall₂ Conjunction.Alike first.conjunctions second.conjunctions

/-- Whether two criteria have groups that are alike, in the same order. -/
def Criteria.Alike (first second : Criteria) : Prop :=
  List.Forall₂ CriteriaGroup.Alike first.groups second.groups

section Sets

variable {options others values texts : List String} (required : SameTexts options others)
  (held : SameTexts values texts)

include required held

/-- It does not matter for one of several options how often and in which order they are given. -/
theorem meetsAny_congr : meetsAny options values = meetsAny others texts := by
  rw [Bool.eq_iff_iff, meetsAny_iff, meetsAny_iff]
  exact exists_congr fun text => and_congr (required text) (held text)

theorem meetsAll_congr : meetsAll options values = meetsAll others texts := by
  rw [Bool.eq_iff_iff, meetsAll_iff, meetsAll_iff]
  exact forall_congr' fun text => imp_congr (required text) (held text)

theorem meetsNone_congr : meetsNone options values = meetsNone others texts := by
  rw [meetsNone, meetsAny_congr required held, meetsNone]

end Sets

/-- Lists with the same texts contain the same texts. -/
theorem contains_congr {values texts : List String} (held : SameTexts values texts)
    (text : String) : values.contains text = texts.contains text := by
  rw [Bool.eq_iff_iff, List.contains_iff_mem, List.contains_iff_mem]
  exact held text

/-- Tests that are alike come out the same on values with the same texts, unless they are of a
range. -/
theorem FieldTest.Alike.evaluate_eq {test other : FieldTest} (alike : test.Alike other)
    (unranged : test.isBetween = false) {value held : Option Json}
    (values : Option.Rel Json.Alike value held) : test.evaluate value = other.evaluate held := by
  cases values with
  | none => cases alike <;> rfl
  | some same =>
      cases alike with
      | same test =>
          have required (texts : List String) : SameTexts texts texts := fun _ => Iff.rfl
          cases test with
          | freeText text => rfl
          | equals text => exact congrArg Except.ok (contains_congr same text)
          | flag expected => exact congrArg Except.ok (contains_congr same (flagText expected))
          | anyOf texts => exact congrArg Except.ok (meetsAny_congr (required texts) same)
          | allOf texts => exact congrArg Except.ok (meetsAll_congr (required texts) same)
          | noneOf texts => exact congrArg Except.ok (meetsNone_congr (required texts) same)
          | exact texts => exact congrArg Except.ok (meetsAll_congr (required texts) same)
          | between range => cases unranged
      | anyOf required => exact congrArg Except.ok (meetsAny_congr required same)
      | allOf required => exact congrArg Except.ok (meetsAll_congr required same)
      | noneOf required => exact congrArg Except.ok (meetsNone_congr required same)
      | exact required => exact congrArg Except.ok (meetsAll_congr required same)

section Traversal

variable {α β ε : Type} {test : α → Except ε Bool} {other : β → Except ε Bool} {elements : List α}
  {others : List β}

/-- Elements that are tested alike pass alike. -/
theorem allPass_congr
    (same : List.Forall₂ (fun element another => test element = other another) elements others) :
    allPass test elements = allPass other others := by
  induction same with
  | nil => rfl
  | cons first _ ih => rw [allPass, allPass, first, ih]

/-- Elements that are tested alike have the same results. -/
theorem allResults_congr
    (same : List.Forall₂ (fun element another => test element = other another) elements others) :
    allResults test elements = allResults other others := by
  induction same with
  | nil => rfl
  | cons first _ ih => rw [allResults, allResults, first, ih]

end Traversal

/-- Criteria that are alike and have no ranges match documents that are alike in the same way. -/
theorem Criteria.Alike.matches_eq {first second : Criteria} (alike : first.Alike second)
    (unranged : first.WithoutRanges) {document other : Document} (same : document.Alike other) :
    first.matches document = second.matches other := by
  refine allPass_congr (((List.forall₂_and_left _ _).mpr ⟨unranged, alike⟩).imp ?_)
  rintro group another ⟨unranged, connective, alike⟩
  rw [CriteriaGroup.matches, CriteriaGroup.matches, connective]
  refine congrArg (Except.map another.connective.combine) ?_
  refine allResults_congr (((List.forall₂_and_left _ _).mpr ⟨unranged, alike⟩).imp ?_)
  rintro conjunction another ⟨unranged, alike⟩
  refine allPass_congr (((List.forall₂_and_left _ _).mpr ⟨unranged, alike⟩).imp ?_)
  rintro clause another ⟨unranged, field, alike⟩
  rw [Clause.matches, Clause.matches, field]
  refine allPass_congr (((List.forall₂_and_left _ _).mpr ⟨unranged, alike⟩).imp ?_)
  rintro test another ⟨unranged, alike⟩
  exact alike.evaluate_eq unranged (same _)

namespace MatchOptions

/-- Parts with the same texts have texts or have none. -/
theorem nonempty?_rel {part other : Option Texts} (alike : Option.Rel Texts.Alike part other) :
    Option.Rel SameTexts (nonempty? part) (nonempty? other) := by
  cases alike with
  | none => exact .none
  | @some texts listed same =>
      have empty : texts.isEmpty = listed.isEmpty := by
        rw [Bool.eq_iff_iff, Texts.isEmpty, Texts.isEmpty, List.isEmpty_iff, List.isEmpty_iff,
          List.eq_nil_iff_forall_not_mem, List.eq_nil_iff_forall_not_mem]
        exact forall_congr' fun text => not_congr (same text)
      simp only [nonempty?, empty]
      split
      · exact .none
      · exact .some same

/-- Parts with the same texts make the same tests. -/
theorem partTests_alike {part other : Option Texts} (alike : Option.Rel Texts.Alike part other)
    {make : List String → FieldTest}
    (tests : ∀ {first second : List String}, SameTexts first second →
      (make first).Alike (make second)) :
    List.Forall₂ FieldTest.Alike (partTests part make) (partTests other make) := by
  have texts := nonempty?_rel alike
  unfold partTests
  generalize nonempty? part = required at texts ⊢
  generalize nonempty? other = listed at texts ⊢
  cases texts with
  | none => exact .nil
  | some same => exact .cons (tests same) .nil

/-- Options with the same texts make the same tests. -/
theorem Alike.tests {first second : MatchOptions} (alike : first.Alike second) :
    List.Forall₂ FieldTest.Alike first.tests second.tests :=
  List.rel_append (List.rel_append (List.rel_append (partTests_alike alike.any .anyOf)
    (partTests_alike alike.all .allOf)) (partTests_alike alike.not .noneOf))
    (partTests_alike alike.exact .exact)

end MatchOptions

section Lowering

variable {now : Instant} {policy : FieldPolicy}

/-- Conditions with the same texts make the same tests. -/
theorem FieldCondition.Alike.tests {field : String} {first second : FieldCondition}
    (alike : FieldCondition.Alike field first second) :
    List.Forall₂ FieldTest.Alike (first.tests now field) (second.tests now field) := by
  cases alike with
  | same condition => exact List.forall₂_same.mpr fun test _ => .same test
  | options _ _ alike => exact alike.tests

/-- The same tests make the same clause. -/
theorem Clause.ofTests?_rel {field : String} {tests others : List FieldTest}
    (alike : List.Forall₂ FieldTest.Alike tests others) :
    Option.Rel Clause.Alike (Clause.ofTests? field tests) (Clause.ofTests? field others) := by
  unfold Clause.ofTests?
  rw [isEmpty_eq_of_forall₂ alike]
  split
  · exact .none
  · exact .some ⟨rfl, alike⟩

/-- Predicates with the same texts are lowered to conjunctions that ask for the same texts. -/
theorem Predicate.Alike.conjunction?_rel {first second : Predicate} (alike : first.Alike second) :
    Option.Rel Conjunction.Alike (first.conjunction? now policy)
      (second.conjunction? now policy) := by
  have included := List.rel_filter (p := fun entry => policy entry.1)
    (q := fun entry => policy entry.1) (fun _ _ same => by simp [same.1]) alike
  have each ⦃entry other : String × FieldCondition⦄
      (same : entry.1 = other.1 ∧ FieldCondition.Alike entry.1 entry.2 other.2) :
      Option.Rel Clause.Alike (Clause.ofTests? entry.1 (entry.2.tests now entry.1))
        (Clause.ofTests? other.1 (other.2.tests now other.1)) := by
    rw [← same.1]
    exact Clause.ofTests?_rel same.2.tests
  have clauses := List.rel_filterMap each included
  simp only [conjunction?_eq, isEmpty_eq_of_forall₂ clauses]
  split
  · exact .none
  · exact .some clauses

/-- Filters with the same texts are lowered to groups that ask for the same texts. -/
theorem Filter.Alike.criteriaGroup?_rel {first second : Filter} (alike : first.Alike second) :
    Option.Rel CriteriaGroup.Alike (first.criteriaGroup? now policy)
      (second.criteriaGroup? now policy) := by
  have conjunctions : List.Forall₂ Conjunction.Alike
      (first.predicates.filterMap (Predicate.conjunction? now policy))
      (second.predicates.filterMap (Predicate.conjunction? now policy)) :=
    List.rel_filterMap (fun _ _ alike => alike.conjunction?_rel) alike.predicates
  simp only [criteriaGroup?, isEmpty_eq_of_forall₂ conjunctions]
  split
  · exact .none
  · exact .some ⟨alike.connective, conjunctions⟩

theorem Query.Alike.criteria {first second : Query} (alike : first.Alike second) :
    (first.criteria now policy).Alike (second.criteria now policy) :=
  List.rel_filterMap (fun _ _ alike => alike.criteriaGroup?_rel) (alike.expand now).filters

end Lowering

end CatalogSearch
