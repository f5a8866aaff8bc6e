import CatalogSearch.Proofs.Criteria.Truth

/-!
# Readings of free text

What free text finds is not known here, so every test of it can be read as met or as not met. A
reading fixes this for each test by its place in the criteria, and then all levels have a plain
truth value. Evaluation gives up on free text when its turn comes, and skips what comes after a
failure; still it never decides what the readings leave open (`Criteria.holdsIn_every_reading`).
-/

namespace CatalogSearch

/-- Whether each test of free text is met, by the positions of its group, conjunction and clause and
its own. -/
abbrev FreeTextReading := Nat → Nat → Nat → Nat → Bool

/-- Whether the value of a field meets a test when free text is met or not as given. A field that is
missing or null meets no other test. -/
def FieldTest.holdsIn (freeText : Bool) (value : Option Json) : FieldTest → Bool
  | .freeText _ => freeText
  | .equals text => hasText text value
  | .anyOf texts => texts.any (hasText · value)
  | .allOf texts | .exact texts => value.isSome && texts.all (hasText · value)
  | .noneOf texts => value.isSome && texts.all fun text => !hasText text value
  | .between range => liesBetween range.earliest.toInt range.latest.toInt value
  | .flag expected => hasText (flagText expected) value

/-- The truth value of a clause in a reading of its tests. -/
def Clause.holdsIn (reading : Nat → Bool) (document : Document) (clause : Clause) : Bool :=
  Connective.and.combine (clause.tests.mapIdx fun position =>
    FieldTest.holdsIn (reading position) (document.value? clause.field))

/-- Whether the clauses of a conjunction all hold in a reading of their free texts. -/
def Conjunction.holdsIn (reading : Nat → Nat → Bool) (document : Document)
    (conjunction : Conjunction) : Bool :=
  Connective.and.combine (conjunction.clauses.mapIdx fun position =>
    Clause.holdsIn (reading position) document)

/-- Whether the conjunctions of a group hold in a reading, as its connective combines them. -/
def CriteriaGroup.holdsIn (reading : Nat → Nat → Nat → Bool) (document : Document)
    (group : CriteriaGroup) : Bool :=
  group.connective.combine (group.conjunctions.mapIdx fun position =>
    Conjunction.holdsIn (reading position) document)

/-- The truth value of criteria in a reading. -/
def Criteria.holdsIn (reading : FreeTextReading) (document : Document) (criteria : Criteria) :
    Bool :=
  Connective.and.combine (criteria.groups.mapIdx fun position =>
    CriteriaGroup.holdsIn (reading position) document)

section Traversal

variable {α ε : Type} {test : α → Except ε Bool}

/-- Where the outcomes agree with the results of a test, stopping at the first failure is sound: the
elements that are not tried cannot change what all of them amount to. -/
theorem combine_of_allPass {outcome : Nat → α → Bool}
    (sound : ∀ position element passed, test element = .ok passed →
      outcome position element = passed)
    {elements : List α} {result : Bool} (evaluated : allPass test elements = .ok result) :
    Connective.and.combine (elements.mapIdx outcome) = result := by
  induction elements generalizing outcome with
  | nil => exact Except.ok.inj evaluated
  | cons first rest ih =>
      unfold allPass at evaluated
      rw [List.mapIdx_cons, Connective.combine, List.all_cons]
      cases passed : test first with
      | error error => simp [passed] at evaluated
      | ok value =>
          rw [id_eq, sound 0 first value passed]
          cases value with
          | false => simpa [passed] using evaluated
          | true =>
              rw [passed] at evaluated
              exact ih (fun position => sound (position + 1)) evaluated

/-- The results of elements that are all evaluated are their outcomes, whatever their positions. -/
theorem mapIdx_of_allResults {outcome : Nat → α → Bool}
    (sound : ∀ position element passed, test element = .ok passed →
      outcome position element = passed)
    {elements : List α} {results : List Bool}
    (evaluated : allResults test elements = .ok results) : elements.mapIdx outcome = results := by
  induction elements generalizing outcome results with
  | nil => exact Except.ok.inj evaluated
  | cons first rest ih =>
      unfold allResults at evaluated
      cases passed : test first with
      | error error => simp [passed] at evaluated
      | ok value =>
          cases later : allResults test rest with
          | error error => simp [passed, later, Except.map] at evaluated
          | ok others =>
              rw [passed, later] at evaluated
              rw [List.mapIdx_cons, sound 0 first value passed,
                ih (fun position => sound (position + 1)) later]
              exact Except.ok.inj evaluated

/-- The error of a test of all elements is that of one of them. -/
theorem exists_error_of_allPass {elements : List α} {error : ε}
    (failed : allPass test elements = .error error) :
    ∃ element ∈ elements, test element = .error error := by
  induction elements with
  | nil => cases failed
  | cons first rest ih =>
      unfold allPass at failed
      cases passed : test first with
      | error cause =>
          rw [passed] at failed
          cases failed
          exact ⟨first, List.mem_cons_self, passed⟩
      | ok value =>
          cases value with
          | false => simp [passed] at failed
          | true =>
              rw [passed] at failed
              obtain ⟨element, member, cause⟩ := ih failed
              exact ⟨element, List.mem_cons_of_mem first member, cause⟩

/-- Where elements are not all evaluated, one of them is the cause. -/
theorem exists_error_of_allResults {elements : List α} {error : ε}
    (failed : allResults test elements = .error error) :
    ∃ element ∈ elements, test element = .error error := by
  induction elements with
  | nil => cases failed
  | cons first rest ih =>
      unfold allResults at failed
      cases passed : test first with
      | error cause =>
          rw [passed] at failed
          cases failed
          exact ⟨first, List.mem_cons_self, passed⟩
      | ok value =>
          cases later : allResults test rest with
          | ok others => simp [passed, later, Except.map] at failed
          | error cause =>
              rw [passed, later] at failed
              cases failed
              obtain ⟨element, member, given⟩ := ih later
              exact ⟨element, List.mem_cons_of_mem first member, given⟩

end Traversal

section Levels

variable {document : Document}

/-- A test that can be evaluated has its result in both readings. -/
theorem FieldTest.holdsIn_of_evaluate {value : Option Json} {test : FieldTest} {result : Bool}
    (evaluated : test.evaluate value = .ok result) (freeText : Bool) :
    test.holdsIn freeText value = result := by
  have met : test.meets value = result := by
    rw [meets, evaluated]
  cases test with
  | freeText text => cases evaluated
  | equals text => rw [← met, meets_equals, holdsIn]
  | anyOf texts => rw [← met, meets_anyOf, holdsIn]
  | allOf texts => rw [← met, meets_allOf, holdsIn]
  | noneOf texts => rw [← met, meets_noneOf, holdsIn]
  | exact texts => rw [← met, meets_exact, meets_allOf, holdsIn]
  | between range => rw [← met, meets_between, holdsIn]
  | flag expected => rw [← met, meets_flag, holdsIn]

/-- A clause that is evaluated holds in every reading as it is evaluated. -/
theorem Clause.holdsIn_of_matches {clause : Clause} {result : Bool}
    (evaluated : clause.matches document = .ok result) (reading : Nat → Bool) :
    clause.holdsIn reading document = result :=
  combine_of_allPass (fun position _ _ passed =>
    FieldTest.holdsIn_of_evaluate passed (reading position)) evaluated

/-- A conjunction that is evaluated holds in every reading as it is evaluated. -/
theorem Conjunction.holdsIn_of_matches {conjunction : Conjunction} {result : Bool}
    (evaluated : conjunction.matches document = .ok result) (reading : Nat → Nat → Bool) :
    conjunction.holdsIn reading document = result :=
  combine_of_allPass (fun position _ _ passed =>
    Clause.holdsIn_of_matches passed (reading position)) evaluated

/-- A group is evaluated when all its conjunctions are, whatever its connective. -/
theorem CriteriaGroup.holdsIn_of_matches {group : CriteriaGroup} {result : Bool}
    (evaluated : group.matches document = .ok result) (reading : Nat → Nat → Nat → Bool) :
    group.holdsIn reading document = result := by
  unfold CriteriaGroup.matches at evaluated
  cases given : allResults (Conjunction.matches document) group.conjunctions with
  | error error =>
      rw [given] at evaluated
      cases evaluated
  | ok results =>
      rw [given] at evaluated
      rw [holdsIn, mapIdx_of_allResults (fun position _ _ passed =>
        Conjunction.holdsIn_of_matches passed (reading position)) given]
      exact Except.ok.inj evaluated

/-- Only a free text cannot be evaluated. -/
theorem FieldTest.isFreeText_of_evaluate {value : Option Json} {test : FieldTest}
    {error : EvaluationError} (failed : test.evaluate value = .error error) :
    test.isFreeText = true := by
  cases evaluable : test.isFreeText with
  | true => rfl
  | false =>
      rw [evaluate_eq_meets evaluable] at failed
      cases failed

/-- Evaluation fails only at a test of free text. -/
theorem Criteria.exists_freeText_of_matches {criteria : Criteria} {error : EvaluationError}
    (failed : criteria.matches document = .error error) :
    ∃ group ∈ criteria.groups, ∃ conjunction ∈ group.conjunctions,
      ∃ clause ∈ conjunction.clauses, ∃ test ∈ clause.tests, test.isFreeText = true := by
  obtain ⟨group, groupMember, failed⟩ := exists_error_of_allPass failed
  unfold CriteriaGroup.matches at failed
  cases given : allResults (Conjunction.matches document) group.conjunctions with
  | ok results =>
      rw [given] at failed
      cases failed
  | error cause =>
      obtain ⟨conjunction, conjunctionMember, failed⟩ := exists_error_of_allResults given
      obtain ⟨clause, clauseMember, failed⟩ := exists_error_of_allPass failed
      obtain ⟨test, testMember, failed⟩ := exists_error_of_allPass failed
      exact ⟨group, groupMember, conjunction, conjunctionMember, clause, clauseMember, test,
        testMember, FieldTest.isFreeText_of_evaluate failed⟩

end Levels

/-- **Free text never makes an open answer look decided.** When criteria can be evaluated on a
document, they have the result in every reading of their free text. When they cannot, the error says
that free text is not implemented, and they do have a test of it. -/
theorem Criteria.holdsIn_every_reading (criteria : Criteria) (document : Document) :
    (∀ result, criteria.matches document = .ok result →
      ∀ reading, criteria.holdsIn reading document = result) ∧
    ∀ error, criteria.matches document = .error error →
      error.message = "Not implemented: free-text evaluation of term" ∧
        ∃ group ∈ criteria.groups, ∃ conjunction ∈ group.conjunctions,
          ∃ clause ∈ conjunction.clauses, ∃ test ∈ clause.tests, test.isFreeText = true := by
  constructor
  · intro result evaluated reading
    exact combine_of_allPass (fun position _ _ passed =>
      CriteriaGroup.holdsIn_of_matches passed (reading position)) evaluated
  · intro error failed
    refine ⟨?_, exists_freeText_of_matches failed⟩
    cases error
    rfl

/-- The order decides whether free text is reached: behind a clause that fails it is not, and before
one it is. -/
theorem Criteria.holdsIn_every_reading_owner :
    let owned : Clause := ⟨"owner", [.equals "casey", .noneOf ["robin"]]⟩
    let found : Clause := ⟨"term", [.freeText "water"]⟩
    let early : Criteria := ⟨[⟨.or, [⟨[owned, found]⟩, ⟨[owned]⟩]⟩, ⟨.and, [⟨[found]⟩]⟩]⟩
    let late : Criteria := ⟨[⟨.or, [⟨[owned]⟩, ⟨[found, owned]⟩]⟩]⟩
    let document : Document := .ofMembers [("owner", .string "robin")]
    early.matches document = .ok false ∧ (∀ reading, early.holdsIn reading document = false) ∧
      late.matches document = .error .freeText ∧ ∃ group ∈ late.groups,
        ∃ conjunction ∈ group.conjunctions, ∃ clause ∈ conjunction.clauses,
          ∃ test ∈ clause.tests, test.isFreeText = true := by
  intro owned found early late document
  have decided : early.matches document = .ok false := rfl
  have failed : late.matches document = .error .freeText := rfl
  exact ⟨decided, (holdsIn_every_reading early document).1 false decided, failed,
    ((holdsIn_every_reading late document).2 .freeText failed).2⟩

end CatalogSearch
