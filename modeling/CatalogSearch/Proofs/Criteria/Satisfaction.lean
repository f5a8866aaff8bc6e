import CatalogSearch.Proofs.Criteria.Elision

/-!
# Satisfying conditions

A predicate can be matched on its own, through the conjunction of its tests. Unless it asks for free
text, that says whether the document satisfies all its conditions (`Predicate.matches_eq_ok`), and
expanding the conditions makes no difference (`Predicate.isSatisfied_expand`).
-/

namespace CatalogSearch

variable {now : Instant} {document : Document}

namespace FieldCondition

/-- Match options that ask for any text of a list have the test of the list. -/
theorem tests_ofAny (now : Instant) (field : String) (texts : List String) :
    (options (.ofAny texts)).tests now field = (list texts).tests now field := by
  cases texts <;> rfl

/-- One of some texts is asked for as options like as a list. -/
theorem isSatisfied_ofAny (field : String) (texts : List String) :
    (options (.ofAny texts)).isSatisfied now document field =
      (list texts).isSatisfied now document field := by
  rw [isSatisfied, tests_ofAny, isSatisfied]

/-- One text is asked for as options like by itself. -/
theorem isSatisfied_ofAny_singleton (field text : String) :
    (options (.ofAny [text])).isSatisfied now document field =
      hasText text (document.value? field) := by
  rw [isSatisfied_ofAny, isSatisfied, tests, List.isEmpty_cons, if_neg Bool.false_ne_true,
    List.all_cons, List.all_nil, Bool.and_true, FieldTest.meets_anyOf, List.any_cons, List.any_nil,
    Bool.or_false]

/-- Expanding a condition keeps what it asks for. -/
theorem isSatisfied_expand (field : String) (condition : FieldCondition) :
    (condition.expand now field).isSatisfied now document field =
      condition.isSatisfied now document field := by
  unfold expand
  cases kind : FieldKind.ofName field with
  | passThrough => rfl
  | date => cases condition <;> rfl
  | matching =>
      -- Free text is used as it is, so a text that is matched is compared with the field.
      have notTerm : field ≠ termField := by
        rintro rfl
        exact absurd kind (by decide)
      cases condition with
      | text value =>
          rw [isSatisfied_ofAny_singleton, isSatisfied, tests, if_neg notTerm, List.all_cons,
            List.all_nil, Bool.and_true, FieldTest.meets_equals]
      | number value =>
          rw [isSatisfied_ofAny_singleton, isSatisfied, tests, List.all_cons, List.all_nil,
            Bool.and_true, FieldTest.meets_equals]
      | flag value =>
          rw [isSatisfied_ofAny_singleton, isSatisfied, tests, List.all_cons, List.all_nil,
            Bool.and_true, FieldTest.meets_flag, flagText]
      | list values => exact isSatisfied_ofAny field values
      | _ => rfl

/-- Match options hold when `any` and the other parts hold. -/
theorem isSatisfied_options (field : String) (value : MatchOptions) :
    (options value).isSatisfied now document field =
      ((options { MatchOptions.empty with any := value.any }).isSatisfied now document field &&
        (options { value with any := none }).isSatisfied now document field) := by
  simp only [isSatisfied, tests, MatchOptions.tests, MatchOptions.partTests, MatchOptions.empty,
    MatchOptions.nonempty?, Option.map_none, Option.toList_none, List.append_nil, List.nil_append,
    List.all_append, Bool.and_assoc]

/-- One of some texts is asked for besides what other parts ask. -/
theorem isSatisfied_withAny (field : String) (value : MatchOptions) (texts : List String) :
    (options { value with any := some (.many texts) }).isSatisfied now document field =
      ((list texts).isSatisfied now document field &&
        (options { value with any := none }).isSatisfied now document field) := by
  rw [isSatisfied_options, ← isSatisfied_ofAny]
  rfl

end FieldCondition

/-- Whether a document matches the conjunction of a predicate. A predicate without a conjunction
asks for nothing. -/
def Predicate.matches (now : Instant) (document : Document) (predicate : Predicate) :
    Except EvaluationError Bool :=
  match predicate.conjunction? now .all with
  | none => .ok true
  | some conjunction => conjunction.matches document

namespace Predicate

/-- A predicate is satisfied exactly if all its conditions are. -/
theorem isSatisfied_iff {predicate : Predicate} : predicate.isSatisfied now document = true ↔
    ∀ field condition, predicate.get? field = some condition →
      condition.isSatisfied now document field = true := by
  simp only [isSatisfied, List.all_eq_true, Prod.forall, get?_eq_some_iff]

/-- Expanding does not change what satisfies a predicate. -/
theorem isSatisfied_expand (predicate : Predicate) :
    (predicate.expand now).isSatisfied now document = predicate.isSatisfied now document := by
  simp only [isSatisfied, expand, mapConditions, List.all_map, Function.comp_def,
    FieldCondition.isSatisfied_expand]

/-- Setting an absent field adds its condition. -/
theorem isSatisfied_insert_iff {predicate : Predicate} {field : String} {condition : FieldCondition}
    (absent : predicate.get? field = none) :
    (predicate.insert field condition).isSatisfied now document = true ↔
      predicate.isSatisfied now document = true ∧
        condition.isSatisfied now document field = true := by
  simp only [isSatisfied_iff, get?_insert]
  constructor
  · intro satisfied
    refine ⟨fun name other held => satisfied name other ?_, satisfied field condition (if_pos rfl)⟩
    have different : name ≠ field := by
      rintro rfl
      rw [held] at absent
      exact absurd absent (Option.some_ne_none other)
    rwa [if_neg different]
  · rintro ⟨others, own⟩ name other held
    by_cases same : name = field
    · subst same
      rw [if_pos rfl] at held
      obtain rfl := Option.some.inj held
      exact own
    · rw [if_neg same] at held
      exact others name other held

/-- A document that matches a predicate satisfies it. -/
theorem matches_eq_ok_true_iff {predicate : Predicate} :
    predicate.matches now document = .ok true ↔ predicate.isSatisfied now document = true := by
  unfold Predicate.matches
  cases lowered : predicate.conjunction? now .all with
  | none => simp [isSatisfied_of_isVacuous (conjunction?_eq_none_iff.mp lowered)]
  | some conjunction =>
      rw [← holds_conjunction lowered]
      exact Conjunction.matches_eq_ok_true_iff

/-- A predicate without free text can be evaluated on every document. -/
theorem matches_eq_ok {predicate : Predicate}
    (evaluable : (predicate.get? termField).bind FieldCondition.asText? = none) :
    predicate.matches now document = .ok (predicate.isSatisfied now document) := by
  unfold Predicate.matches
  cases lowered : predicate.conjunction? now .all with
  | none => rw [isSatisfied_of_isVacuous (conjunction?_eq_none_iff.mp lowered)]
  | some conjunction =>
      rw [← holds_conjunction lowered]
      apply allPass_eq_ok
      intro clause clauseMember
      apply allPass_eq_ok
      intro test testMember
      apply FieldTest.evaluate_eq_meets
      obtain ⟨condition, held, _, tests, _⟩ := (mem_clauses_iff lowered).mp clauseMember
      rw [Bool.eq_false_iff]
      intro freeText
      obtain ⟨term, text, rfl⟩ :=
        FieldCondition.eq_text_of_isFreeText (tests ▸ testMember) freeText
      rw [term, ← get?_eq_some_iff] at held
      rw [held] at evaluable
      exact absurd evaluable (Option.some_ne_none text)

end Predicate

end CatalogSearch
