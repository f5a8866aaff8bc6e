import CatalogSearch.Criteria.Evaluation

/-!
# Truth values of criteria

Criteria without free text can be evaluated on every document, and the result is a plain combination
of the truth values of their tests (`Criteria.matches_eq_holds`).
-/

namespace CatalogSearch

/-- The document without members. -/
def Document.empty : Document :=
  ⟨[], .nil, trivial⟩

/-- Whether a text is among those by which the value of a field is compared. -/
def hasText (text : String) (value : Option Json) : Bool :=
  value.any fun json => json.comparands.contains text

/-- Whether the value of a field is a number that, as a 64-bit integer, lies between two others. -/
def liesBetween (low high : Int) (value : Option Json) : Bool :=
  (value.bind Json.asNumber?).any fun number =>
    low ≤ number.toInt64.toInt && number.toInt64.toInt ≤ high

namespace FieldTest

/-- Whether a test asks for free text. -/
def isFreeText : FieldTest → Bool
  | .freeText _ => true
  | _ => false

/-- The outcome of a test on the value of a field. Free text is never met. -/
def meets (value : Option Json) (test : FieldTest) : Bool :=
  match test.evaluate value with
  | .ok outcome => outcome
  | .error _ => false

/-- Only free text cannot be evaluated. -/
theorem evaluate_eq_meets {value : Option Json} {test : FieldTest}
    (evaluable : test.isFreeText = false) : test.evaluate value = .ok (test.meets value) := by
  cases test with
  | freeText text => simp [isFreeText] at evaluable
  | between range =>
      cases value with
      | none => rfl
      | some json =>
          simp only [evaluate, holds, meets]
          cases json.asNumber? <;> rfl
  | _ => cases value <;> rfl

/-- A test is passed exactly if the value meets it. -/
theorem evaluate_eq_ok_true_iff {value : Option Json} {test : FieldTest} :
    test.evaluate value = .ok true ↔ test.meets value = true := by
  unfold meets
  cases test.evaluate value with
  | error error => simp
  | ok outcome => simp

/-- A field that is missing or null meets no test. -/
@[simp] theorem meets_none (test : FieldTest) : test.meets none = false := by
  cases test <;> rfl

section Comparisons

variable (value : Option Json)

theorem meets_equals (text : String) : meets value (.equals text) = hasText text value := by
  cases value <;> rfl

/-- To be any of some texts is to have one of them. -/
theorem meets_anyOf (texts : List String) :
    meets value (.anyOf texts) = texts.any (hasText · value) := by
  cases value with
  | none => simp [hasText]
  | some json => rfl

theorem meets_allOf (texts : List String) :
    meets value (.allOf texts) = (value.isSome && texts.all (hasText · value)) := by
  cases value <;> rfl

/-- A value that has one of some texts is there. -/
theorem meets_allOf_of_ne_nil {texts : List String} (content : texts ≠ []) :
    meets value (.allOf texts) = texts.all (hasText · value) := by
  rw [meets_allOf]
  cases value with
  | none =>
      obtain ⟨first, others, rfl⟩ := List.exists_cons_of_ne_nil content
      rfl
  | some json => exact Bool.true_and _

/-- An exact test is met like an all-of test. -/
theorem meets_exact (texts : List String) :
    meets value (.exact texts) = meets value (.allOf texts) := by
  cases value <;> rfl

/-- To be none of some texts is to be there and to have none of them. -/
theorem meets_noneOf (texts : List String) :
    meets value (.noneOf texts) = (value.isSome && texts.all fun text => !hasText text value) := by
  cases value with
  | none => rfl
  | some json =>
      rw [Option.isSome_some, Bool.true_and, ← List.not_any_eq_all_not]
      rfl

/-- To be in a range is to lie between its ends. -/
theorem meets_between (range : DateRange) : meets value (.between range) =
    liesBetween range.earliest.toInt range.latest.toInt value := by
  cases value with
  | none => rfl
  | some json =>
      simp only [meets, evaluate, holds, liesBetween, Option.bind_some]
      cases json.asNumber? with
      | none => rfl
      | some number =>
          simp only [DateRange.contains, Option.any_some, Int64.le_iff_toInt_le]

/-- A flag is compared by its text. -/
theorem meets_flag (flag : Bool) : meets value (.flag flag) = hasText (flagText flag) value := by
  cases value <;> rfl

end Comparisons

end FieldTest

/-- The truth value of a clause. -/
def Clause.holds (document : Document) (clause : Clause) : Bool :=
  clause.tests.all (FieldTest.meets (document.value? clause.field))

/-- The truth value of a conjunction. -/
def Conjunction.holds (document : Document) (conjunction : Conjunction) : Bool :=
  conjunction.clauses.all (Clause.holds document)

/-- The truth value of a group. -/
def CriteriaGroup.holds (document : Document) (group : CriteriaGroup) : Bool :=
  group.connective.combine (group.conjunctions.map (Conjunction.holds document))

/-- The truth value of criteria. -/
def Criteria.holds (document : Document) (criteria : Criteria) : Bool :=
  criteria.groups.all (CriteriaGroup.holds document)

/-- Whether every test has a property, which may depend on the field it is on. -/
def Criteria.EveryTest (property : String → FieldTest → Prop) (criteria : Criteria) : Prop :=
  ∀ group ∈ criteria.groups, ∀ conjunction ∈ group.conjunctions,
    ∀ clause ∈ conjunction.clauses, ∀ test ∈ clause.tests, property clause.field test

/-- What every test meets in two ways it meets in both. -/
theorem Criteria.EveryTest.and {first second : String → FieldTest → Prop} {criteria : Criteria}
    (every : criteria.EveryTest first) (everyOther : criteria.EveryTest second) :
    criteria.EveryTest fun field test => first field test ∧ second field test :=
  fun group groupMember conjunction conjunctionMember clause clauseMember test testMember =>
    ⟨every group groupMember conjunction conjunctionMember clause clauseMember test testMember,
      everyOther group groupMember conjunction conjunctionMember clause clauseMember test
        testMember⟩

/-- What every test meets it meets in a weaker way. -/
theorem Criteria.EveryTest.imp {first second : String → FieldTest → Prop} {criteria : Criteria}
    (implies : ∀ {field test}, first field test → second field test)
    (every : criteria.EveryTest first) : criteria.EveryTest second :=
  fun group groupMember conjunction conjunctionMember clause clauseMember test testMember =>
    implies (every group groupMember conjunction conjunctionMember clause clauseMember test
      testMember)

/-- Whether no test asks for free text. -/
def Criteria.WithoutFreeText (criteria : Criteria) : Prop :=
  criteria.EveryTest fun _ test => test.isFreeText = false

section Traversal

variable {α ε : Type} {test : α → Except ε Bool} {outcome : α → Bool}

/-- Elements that are all tested pass if every one does. -/
theorem allPass_eq_ok {elements : List α}
    (evaluated : ∀ element ∈ elements, test element = .ok (outcome element)) :
    allPass test elements = .ok (elements.all outcome) := by
  induction elements with
  | nil => rfl
  | cons first rest ih =>
      have now := evaluated first List.mem_cons_self
      have later := ih fun element member => evaluated element (List.mem_cons_of_mem _ member)
      cases passed : outcome first with
      | false => simp [allPass, now, passed]
      | true => simp [allPass, now, passed, later]

/-- All elements pass exactly if each does. -/
theorem allPass_eq_ok_true_iff {elements : List α} :
    allPass test elements = .ok true ↔ ∀ element ∈ elements, test element = .ok true := by
  induction elements with
  | nil => simp [allPass]
  | cons first rest ih =>
      rw [List.forall_mem_cons, ← ih, allPass]
      cases test first with
      | error error => simp
      | ok result => cases result <;> simp

/-- Elements that are all tested have their outcomes as results. -/
theorem allResults_eq_ok {elements : List α}
    (evaluated : ∀ element ∈ elements, test element = .ok (outcome element)) :
    allResults test elements = .ok (elements.map outcome) := by
  induction elements with
  | nil => rfl
  | cons first rest ih =>
      have now := evaluated first List.mem_cons_self
      have later := ih fun element member => evaluated element (List.mem_cons_of_mem _ member)
      simp [allResults, now, later, Except.map]

end Traversal

/-- A document that matches a conjunction meets all its tests. -/
theorem Conjunction.matches_eq_ok_true_iff {conjunction : Conjunction} {document : Document} :
    conjunction.matches document = .ok true ↔ conjunction.holds document = true := by
  simp only [Conjunction.matches, Clause.matches, allPass_eq_ok_true_iff,
    FieldTest.evaluate_eq_ok_true_iff, holds, Clause.holds, List.all_eq_true]

/-- Evaluating criteria without free text gives their truth value. -/
theorem Criteria.matches_eq_holds {criteria : Criteria} (evaluable : criteria.WithoutFreeText)
    (document : Document) : criteria.matches document = .ok (criteria.holds document) := by
  apply allPass_eq_ok
  intro group groupMember
  have results : allResults (Conjunction.matches document) group.conjunctions =
      .ok (group.conjunctions.map (Conjunction.holds document)) := by
    apply allResults_eq_ok
    intro conjunction conjunctionMember
    apply allPass_eq_ok
    intro clause clauseMember
    apply allPass_eq_ok
    intro test testMember
    have withoutFreeText := evaluable group groupMember conjunction conjunctionMember clause
      clauseMember test testMember
    exact FieldTest.evaluate_eq_meets withoutFreeText
  rw [CriteriaGroup.matches, results]
  rfl

end CatalogSearch
