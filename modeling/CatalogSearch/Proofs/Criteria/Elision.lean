import CatalogSearch.Proofs.Criteria.WellFormed

/-!
# Leaving out empty levels

Criteria leave out fields without tests and predicates and filters that are empty because of that.
What remains reads the expanded query as if predicates without tests did not count. A conjunction
does not notice, and a disjunction does not exactly when it has predicates and they all ask for
something or all ask for nothing (`Query.matches_criteria_elided`).
-/

namespace CatalogSearch

/-- The policy of a backend that renders every field. -/
def FieldPolicy.all : FieldPolicy :=
  fun _ => true

/-- Whether a document meets all tests of a condition, of which there may be none. -/
def FieldCondition.isSatisfied (now : Instant) (document : Document) (field : String)
    (condition : FieldCondition) : Bool :=
  (condition.tests now field).all (FieldTest.meets (document.value? field))

namespace Predicate

/-- Whether a document satisfies all conditions, of which there may be none. -/
def isSatisfied (now : Instant) (document : Document) (predicate : Predicate) : Bool :=
  predicate.entries.all fun (field, condition) => condition.isSatisfied now document field

/-- Whether no condition has a test. -/
def isVacuous (now : Instant) (predicate : Predicate) : Bool :=
  predicate.entries.all fun (field, condition) => (condition.tests now field).isEmpty

end Predicate

namespace Filter

/-- Whether the predicates are satisfied as the connective says, all of them counting. -/
def isSatisfied (now : Instant) (document : Document) (filter : Filter) : Bool :=
  filter.connective.combine (filter.predicates.map (Predicate.isSatisfied now document))

/-- Whether the predicates that have tests are satisfied as the connective says, if there are any.
-/
def isMet (now : Instant) (document : Document) (filter : Filter) : Bool :=
  let demands := filter.predicates.filter fun predicate => !predicate.isVacuous now
  demands.isEmpty || filter.connective.combine (demands.map (Predicate.isSatisfied now document))

/-- Whether a disjunction has predicates, all of them with tests or all of them without. -/
def IsUniform (now : Instant) (filter : Filter) : Prop :=
  filter.connective = .or → filter.predicates ≠ [] ∧
    ((∀ predicate ∈ filter.predicates, predicate.isVacuous now = true) ∨
      ∀ predicate ∈ filter.predicates, predicate.isVacuous now = false)

end Filter

/-- Whether a document satisfies all filters. -/
def Query.isSatisfied (now : Instant) (document : Document) (query : Query) : Bool :=
  query.filters.all (Filter.isSatisfied now document)

section Readings

variable {now : Instant} {document : Document}

/-- A predicate without tests is satisfied by every document. -/
theorem Predicate.isSatisfied_of_isVacuous {predicate : Predicate}
    (vacuous : predicate.isVacuous now = true) : predicate.isSatisfied now document = true := by
  unfold isVacuous at vacuous
  unfold isSatisfied
  rw [List.all_eq_true] at vacuous ⊢
  intro entry member
  have none : entry.2.tests now entry.1 = [] := List.isEmpty_iff.mp (vacuous entry member)
  simp only [FieldCondition.isSatisfied, none, List.all_nil]

/-- The empty document satisfies only what asks for nothing. -/
theorem Predicate.isSatisfied_empty (predicate : Predicate) :
    predicate.isSatisfied now .empty = predicate.isVacuous now := by
  have missing (field : String) : Document.empty.value? field = none := rfl
  have each (tests : List FieldTest) : tests.all (FieldTest.meets none) = tests.isEmpty := by
    cases tests with
    | nil => rfl
    | cons first rest => simp only [List.all_cons, FieldTest.meets_none, Bool.false_and,
        List.isEmpty_cons]
  simp only [isSatisfied, isVacuous, FieldCondition.isSatisfied, missing, each]

/-- A predicate is lowered to no conjunction exactly if it has no tests. -/
theorem Predicate.conjunction?_eq_none_iff {predicate : Predicate} :
    predicate.conjunction? now .all = none ↔ predicate.isVacuous now = true := by
  simp only [conjunction?_eq_none, isVacuous, FieldPolicy.all, forall_const, List.all_eq_true,
    List.isEmpty_iff]

/-- The conjunction of a predicate holds where the predicate is satisfied. -/
theorem Predicate.holds_conjunction {predicate : Predicate} {conjunction : Conjunction}
    (lowered : predicate.conjunction? now .all = some conjunction) :
    conjunction.holds document = predicate.isSatisfied now document := by
  rw [Bool.eq_iff_iff, Conjunction.holds, isSatisfied, List.all_eq_true, List.all_eq_true]
  constructor
  · intro holds entry member
    by_cases content : entry.2.tests now entry.1 = []
    · simp only [FieldCondition.isSatisfied, content, List.all_nil]
    · exact holds ⟨entry.1, entry.2.tests now entry.1⟩
        ((mem_clauses_iff lowered).mpr ⟨entry.2, member, rfl, rfl, content⟩)
  · intro satisfied clause member
    obtain ⟨condition, inside, _, tests, _⟩ := (mem_clauses_iff lowered).mp member
    rw [Clause.holds, tests]
    exact satisfied (clause.field, condition) inside

/-- The conjunctions of predicates are those of the predicates with tests. -/
theorem Predicate.map_holds_conjunctions (now : Instant) (document : Document)
    (predicates : List Predicate) :
    (predicates.filterMap (conjunction? now .all)).map (Conjunction.holds document) =
      (predicates.filter fun predicate => !predicate.isVacuous now).map
        (isSatisfied now document) := by
  induction predicates with
  | nil => rfl
  | cons first rest ih =>
      cases lowered : first.conjunction? now .all with
      | none =>
          have vacuous := conjunction?_eq_none_iff.mp lowered
          rw [List.filterMap_cons_none lowered, ih, List.filter_cons_of_neg (by simp [vacuous])]
      | some conjunction =>
          have content : first.isVacuous now = false := by
            rw [Bool.eq_false_iff, ne_eq, ← conjunction?_eq_none_iff, lowered]
            exact Option.some_ne_none conjunction
          rw [List.filterMap_cons_some lowered, List.filter_cons_of_pos (by simp [content]),
            List.map_cons, List.map_cons, ih, holds_conjunction lowered]

/-- The group of a filter holds where the filter is met; a filter without a group is always met. -/
theorem Filter.isMet_eq_holds (filter : Filter) : filter.isMet now document =
    ((filter.criteriaGroup? now .all).map (CriteriaGroup.holds document)).getD true := by
  have outcomes := Predicate.map_holds_conjunctions now document filter.predicates
  have sameLevel := congrArg List.isEmpty outcomes
  rw [List.isEmpty_map, List.isEmpty_map] at sameLevel
  unfold isMet criteriaGroup?
  dsimp only
  rw [← outcomes, ← sameLevel]
  cases empty : (filter.predicates.filterMap (Predicate.conjunction? now .all)).isEmpty with
  | true => rfl
  | false => rfl

/-- The criteria of a query hold where all its filters are met. -/
theorem Query.holds_criteria (query : Query) : (query.criteria now .all).holds document =
    (query.expand now).filters.all (Filter.isMet now document) := by
  rw [Criteria.holds, criteria, List.all_filterMap]
  congr 1
  funext filter
  rw [Filter.isMet_eq_holds]
  cases filter.criteriaGroup? now .all <;> rfl

/-- In a conjunction, and in a disjunction of one kind of predicates, predicates without tests may
be left out. -/
theorem Filter.isMet_eq_isSatisfied {filter : Filter} (uniform : filter.IsUniform now) :
    filter.isMet now document = filter.isSatisfied now document := by
  obtain ⟨connective, predicates⟩ := filter
  cases connective with
  | and =>
      rw [Bool.eq_iff_iff]
      simp only [isMet, isSatisfied, Connective.combine, Bool.or_eq_true, List.isEmpty_iff,
        List.filter_eq_nil_iff, List.all_map, List.all_eq_true, List.mem_filter,
        Bool.not_eq_true', Function.comp_apply, id_eq, and_imp]
      constructor
      · intro met predicate member
        cases vacuous : predicate.isVacuous now with
        | true => exact Predicate.isSatisfied_of_isVacuous vacuous
        | false =>
            rcases met with none | demands
            · exact absurd vacuous (none predicate member)
            · exact demands predicate member vacuous
      · intro satisfied
        exact .inr fun predicate member _ => satisfied predicate member
  | or =>
      obtain ⟨content, vacuous | demanding⟩ := uniform rfl
      · have none : predicates.filter (fun predicate => !predicate.isVacuous now) = [] :=
          List.filter_eq_nil_iff.mpr fun predicate member => by simp [vacuous predicate member]
        obtain ⟨first, member⟩ := List.exists_mem_of_ne_nil predicates content
        have satisfied : (predicates.map (Predicate.isSatisfied now document)).any id = true := by
          rw [List.any_map, List.any_eq_true]
          exact ⟨first, member, Predicate.isSatisfied_of_isVacuous (vacuous first member)⟩
        simp only [isMet, isSatisfied, Connective.combine, none, List.isEmpty_nil, Bool.true_or,
          satisfied]
      · have all : predicates.filter (fun predicate => !predicate.isVacuous now) = predicates :=
          List.filter_eq_self.mpr fun predicate member => by rw [demanding predicate member]; rfl
        have some : predicates.isEmpty = false := by simpa using content
        simp only [isMet, isSatisfied, all, some, Bool.false_or]

/-- Where all filters are uniform, the criteria of a query hold where its expansion is satisfied. -/
theorem Query.holds_criteria_of_uniform {query : Query}
    (uniform : ∀ filter ∈ (query.expand now).filters, filter.IsUniform now) :
    (query.criteria now .all).holds document = (query.expand now).isSatisfied now document := by
  rw [holds_criteria, isSatisfied, Bool.eq_iff_iff, List.all_eq_true, List.all_eq_true]
  constructor
  · intro met filter member
    rw [← Filter.isMet_eq_isSatisfied (uniform filter member)]
    exact met filter member
  · intro satisfied filter member
    rw [Filter.isMet_eq_isSatisfied (uniform filter member)]
    exact satisfied filter member

/-- A disjunction of both kinds of predicates, or of none, reads the empty document differently when
predicates without tests are left out. -/
theorem Filter.isUniform_of_forall_eq {filter : Filter}
    (same : ∀ document, filter.isMet now document = filter.isSatisfied now document) :
    filter.IsUniform now := by
  intro disjunction
  obtain ⟨connective, predicates⟩ := filter
  subst disjunction
  have reading := same .empty
  have content : predicates ≠ [] := by
    rintro rfl
    exact Bool.false_ne_true (show true = false from reading).symm
  refine ⟨content, ?_⟩
  by_cases vacuous : ∀ predicate ∈ predicates, predicate.isVacuous now = true
  · exact .inl vacuous
  · right
    intro predicate member
    rw [Bool.eq_false_iff]
    intro mixed
    have satisfied : Filter.isSatisfied now .empty ⟨.or, predicates⟩ = true := by
      rw [isSatisfied, Connective.combine, List.any_map, List.any_eq_true]
      exact ⟨predicate, member, Predicate.isSatisfied_of_isVacuous mixed⟩
    rw [satisfied, isMet, Bool.or_eq_true] at reading
    rcases reading with none | some
    · rw [List.isEmpty_iff, List.filter_eq_nil_iff] at none
      exact vacuous fun other inside => by simpa using none other inside
    · rw [Connective.combine, List.any_map, List.any_eq_true] at some
      obtain ⟨other, demanding, fulfilled⟩ := some
      rw [Function.comp_apply, id_eq, Predicate.isSatisfied_empty] at fulfilled
      simp [fulfilled] at demanding

end Readings

/-- **Leaving out empty levels.** A document matches the criteria of a query without free text when
it meets all filters of the expansion. This says that it satisfies them with all predicates counting
where the filters are uniform, and no other disjunction can do without its predicates that have no
tests. -/
theorem Query.matches_criteria_elided {query : Query} (evaluable : query.WithoutFreeText)
    (now : Instant) :
    (∀ document, (query.criteria now .all).matches document =
        .ok ((query.expand now).filters.all (Filter.isMet now document))) ∧
      ((∀ filter ∈ (query.expand now).filters, filter.IsUniform now) → ∀ document,
        (query.criteria now .all).matches document =
          .ok ((query.expand now).isSatisfied now document)) ∧
      ∀ filter : Filter, filter.IsUniform now ↔
        ∀ document, filter.isMet now document = filter.isSatisfied now document := by
  have matched (document : Document) : (query.criteria now .all).matches document =
      .ok ((query.criteria now .all).holds document) :=
    Criteria.matches_eq_holds (withoutFreeText_criteria evaluable) document
  refine ⟨fun document => ?_, fun uniform document => ?_, fun filter =>
    ⟨fun uniform document => Filter.isMet_eq_isSatisfied uniform, Filter.isUniform_of_forall_eq⟩⟩
  · rw [matched, holds_criteria]
  · rw [matched, holds_criteria_of_uniform uniform]

/-- A conjunction with a shortcut that is not registered and an empty list, beside a disjunction
whose predicates all have tests: the document with a matching owner satisfies both. -/
theorem Query.matches_criteria_elided_uniform :
    let query : Query := ⟨.item,
      [⟨.and, [.ofEntries [("type", .text "$unknown")], .ofEntries [("tags", .list [])]]⟩,
        ⟨.or, [.ofEntries [("owner", .text "casey")], .ofEntries [("access", .text "public")]]⟩]⟩
    let document : Document := .ofMembers [("owner", .string "casey")]
    query.WithoutFreeText ∧
      (∀ filter ∈ (query.expand .epoch).filters, filter.IsUniform .epoch) ∧
      (query.criteria .epoch .all).matches document =
        .ok ((query.expand .epoch).isSatisfied .epoch document) := by
  intro query document
  have evaluable : query.WithoutFreeText := by
    unfold WithoutFreeText
    decide
  have uniform : ∀ filter ∈ (query.expand .epoch).filters, filter.IsUniform .epoch := by
    unfold Filter.IsUniform
    decide
  exact ⟨evaluable, uniform, (matches_criteria_elided evaluable .epoch).2.1 uniform _⟩

/-- Leaving out an empty predicate of a disjunction narrows it. -/
theorem Query.mixed_disjunction_narrowed :
    ¬ ∀ (query : Query) (now : Instant) (document : Document), query.WithoutFreeText →
      (query.criteria now .all).matches document =
        .ok ((query.expand now).isSatisfied now document) := by
  intro same
  have evaluable : Query.WithoutFreeText
      ⟨.item, [⟨.or, [.empty, .ofEntries [("tags", .text "x")]]⟩]⟩ := by
    unfold WithoutFreeText
    decide
  have outcomes : (.ok false : Except EvaluationError Bool) = .ok true :=
    same _ .epoch .empty evaluable
  exact Bool.false_ne_true (Except.ok.inj outcomes)

end CatalogSearch
