import CatalogSearch.Proofs.Criteria.WellFormed
import CatalogSearch.Proofs.Portal.Grammar
import CatalogSearch.Proofs.Syntax.Combination

/-!
# The meaning of portal searches

The two texts of a search find together what the criteria match (`PortalSearch.reading_ofQuery`).
Every level of the criteria is written as expressions that must all hold, except that a disjunction
needs one expression for each of its conjunctions.
-/

namespace CatalogSearch

namespace Portal

open Grammar (Combines)

/-- No expression is an empty text. -/
theorem Expression.ne_nil {text : List Char} {meaning : Document → Bool}
    (read : Expression text meaning) : text ≠ [] := by
  cases read with
  | comparison => exact List.append_ne_nil_of_right_ne_nil _ (List.cons_ne_nil _ _)
  | negation => exact List.cons_ne_nil _ _
  | group => exact List.cons_ne_nil _ _

section Groups

variable {connective : Connective} {texts : List (List Char)} {meaning : Document → Bool}

/-- No expression is empty, so none is left out. -/
theorem filter_eq (combined : Combines Expression connective texts meaning) :
    (texts.filter fun text => !text.isEmpty) = texts :=
  Grammar.filter_eq_self (combined.ne_nil_of_mem Expression.ne_nil)

/-- Grouping keeps the meaning, if a disjunction has one. -/
theorem combines_group (combined : Combines Expression connective texts meaning)
    (content : connective = .or → texts ≠ []) :
    Combines Expression .and (group connective texts) meaning := by
  unfold group
  rw [filter_eq combined]
  rcases texts with _ | ⟨first, _ | ⟨second, rest⟩⟩
  · cases connective with
    | and => exact combined
    | or => exact absurd rfl (content rfl)
  · exact .single combined.read_single
  · obtain ⟨parts, written, read, outcome⟩ := combined
    have several : 2 ≤ parts.length := by
      have length := congrArg List.length written
      simp only [List.length_map, List.length_cons] at length
      omega
    have grouped : Expression
        ('(' :: (separator connective).intercalate (parts.map Prod.fst) ++ [')']) _ :=
      .group several read
    rw [written] at grouped
    exact (Combines.single grouped).congr outcome

/-- A group of at most one text keeps its meaning whatever the connective. -/
theorem combines_group_of_few (combined : Combines Expression .and texts meaning)
    (few : texts.length ≤ 1) : Combines Expression .and (group connective texts) meaning := by
  unfold group
  rw [filter_eq combined]
  rcases texts with _ | ⟨first, _ | ⟨second, rest⟩⟩
  · exact combined
  · exact combined
  · simp at few

end Groups

/-- Whether the texts of both parts, all of which must hold, have a meaning. -/
def Renders (parts : Parts) (meaning : Document → Bool) : Prop :=
  ∃ asked exact : Document → Bool, Combines Expression .and parts.query asked ∧
    Combines Expression .and parts.exact exact ∧
      ∀ document, meaning document = (asked document && exact document)

namespace Renders

variable {parts : Parts} {meaning : Document → Bool}

theorem congr {other : Document → Bool} (rendered : Renders parts meaning)
    (same : ∀ document, other document = meaning document) : Renders parts other := by
  obtain ⟨asked, exact, query, sent, outcome⟩ := rendered
  exact ⟨asked, exact, query, sent, fun document => (same document).trans (outcome document)⟩

theorem query {texts : List (List Char)} (combined : Combines Expression .and texts meaning) :
    Renders ⟨texts, []⟩ meaning :=
  ⟨meaning, fun _ => true, combined, .nil, fun _ => (Bool.and_true _).symm⟩

theorem exact {texts : List (List Char)} (combined : Combines Expression .and texts meaning) :
    Renders ⟨[], texts⟩ meaning :=
  ⟨fun _ => true, meaning, .nil, combined, fun _ => (Bool.true_and _).symm⟩

theorem empty : Renders .empty fun _ => true :=
  query .nil

theorem append {others : Parts} {other : Document → Bool} (first : Renders parts meaning)
    (second : Renders others other) :
    Renders (parts.append others) fun document => meaning document && other document := by
  obtain ⟨asked, exact, query, sent, outcome⟩ := first
  obtain ⟨otherAsked, otherExact, otherQuery, otherSent, otherOutcome⟩ := second
  refine ⟨_, _, query.append otherQuery, sent.append otherSent, fun document => ?_⟩
  dsimp only
  rw [outcome, otherOutcome]
  ac_rfl

/-- Parts one after the other must all hold. -/
theorem foldr {α : Type} {elements : List α} {write : α → Parts} {outcome : α → Document → Bool}
    (rendered : ∀ element ∈ elements, Renders (write element) (outcome element)) :
    Renders (elements.foldr (fun element parts => (write element).append parts) .empty)
      fun document => elements.all fun element => outcome element document := by
  induction elements with
  | nil => exact empty
  | cons first rest ih =>
      have later := ih fun element member => rendered element (List.mem_cons_of_mem _ member)
      exact (rendered first List.mem_cons_self).append later

/-- A conjunction of parts keeps their meaning. -/
theorem group (rendered : Renders parts meaning) : Renders (parts.group .and) meaning := by
  obtain ⟨asked, exact, query, sent, outcome⟩ := rendered
  exact ⟨asked, exact, combines_group query (fun same => by cases same),
    combines_group sent (fun same => by cases same), outcome⟩

/-- Parts with at most one text each keep their meaning whatever the connective. -/
theorem group_of_few (connective : Connective) (rendered : Renders parts meaning)
    (query : parts.query.length ≤ 1) (exact : parts.exact.length ≤ 1) :
    Renders (parts.group connective) meaning := by
  obtain ⟨asked, exactly, combined, sent, outcome⟩ := rendered
  exact ⟨asked, exactly, combines_group_of_few combined query, combines_group_of_few sent exact,
    outcome⟩

end Renders

/-- Whether a test of a field can be written: the field has a name, the test is no free text, it has
texts if it compares with a list, and its texts can stand between quotes. -/
structure IsWritable (field : String) (test : FieldTest) : Prop where
  named : Grammar.IsName field.toList
  wellFormed : test.WellFormed
  evaluable : test.isFreeText = false
  plain : ∀ value ∈ test.texts, IsPlain value.toList

/-- A plain value stands between quotes as it is. -/
theorem flatMap_phraseCharacter {value : List Char} (plain : IsPlain value) :
    value.flatMap phraseCharacter = value := by
  induction value with
  | nil => rfl
  | cons first rest ih =>
      have unescaped : first ≠ '"' := by
        rintro rfl
        exact absurd (plain '"' List.mem_cons_self) (by decide)
      rw [List.flatMap_cons, ih fun character member => plain character (.tail first member),
        phraseCharacter, if_neg unescaped]
      rfl

section Tests

variable {field : String} (named : Grammar.IsName field.toList)

include named

/-- An operand behind the name of a field and a colon is read of that field. -/
theorem expression_comparison {operand : List Char} {outcome : Option Json → Bool}
    (read : Operand operand outcome) :
    Expression (field.toList ++ ':' :: operand)
      fun document => outcome (document.value? field) :=
  Grammar.reads_value field (.comparison named read)

omit named in
/-- The phrase of a plain value is read as the value. -/
theorem phrase_read {value : String} (plain : IsPlain value.toList) :
    Phrase (phrase value) value := by
  have quoted := Phrase.quoted plain
  rw [String.ofList_toList] at quoted
  rwa [phrase, flatMap_phraseCharacter plain]

/-- A term is read as the test for its value. -/
theorem expression_term {value : String} (plain : IsPlain value.toList) :
    Expression (term field value) fun document => hasText value (document.value? field) :=
  expression_comparison named (.phrase (phrase_read plain))

/-- A negated term is read as the negation of that test. -/
theorem expression_negated_term {value : String} (plain : IsPlain value.toList) :
    Expression ('-' :: term field value)
      fun document => !hasText value (document.value? field) :=
  @Grammar.reads_value _ _ (fun found => !hasText value found) field
    (.negation named (phrase_read plain))

/-- The comparisons of a field with several values, of which a disjunction needs one. -/
theorem combines_terms (connective : Connective) {values : List String}
    (plain : ∀ value ∈ values, IsPlain value.toList) (content : connective = .or → values ≠ []) :
    Combines Expression .and (terms connective field values) fun document =>
      connective.combine (values.map fun value => hasText value (document.value? field)) := by
  refine combines_group ?_ fun disjunction => ?_
  · exact .of_forall fun value member => expression_term named (plain value member)
  · simpa using content disjunction

/-- A test that asks for no required values is written with its meaning. -/
theorem renders_test {apart : Bool} {test : FieldTest} (writable : IsWritable field test)
    (separate : asksRequired apart test = false) (required : List String) (written : Bool) :
    Renders (testParts field apart required written test)
      fun document => test.meets (document.value? field) := by
  have plain := writable.plain
  cases test with
  | freeText text => exact absurd writable.evaluable.symm Bool.false_ne_true
  | allOf values => exact absurd separate.symm Bool.false_ne_true
  | equals value =>
      have read := expression_term named (plain value (List.mem_singleton.mpr rfl))
      exact (Renders.query (.single read)).congr fun document => FieldTest.meets_equals _ value
  | anyOf values =>
      have combined := combines_terms named .or plain fun _ => writable.wellFormed
      refine (Renders.query combined).congr fun document => ?_
      rw [FieldTest.meets_anyOf, Grammar.combine_or]
      rfl
  | exact values =>
      have sent : apart = true := by simpa [asksRequired] using separate
      subst sent
      have combined := combines_terms named .and plain fun same => by cases same
      refine (Renders.exact combined).congr fun document => ?_
      rw [FieldTest.meets_exact, FieldTest.meets_allOf_of_ne_nil _ writable.wellFormed,
        Grammar.combine_and]
      rfl
  | noneOf values =>
      have present : Combines Expression .and [field.toList ++ [':', '*']] _ :=
        .single (expression_comparison named .present)
      have negated : Combines Expression .and (values.map fun value => '-' :: term field value) _ :=
        .of_forall fun value member => expression_negated_term named (plain value member)
      have guarded := combines_group (present.append negated) fun same => by cases same
      refine (Renders.query guarded).congr fun document => ?_
      rw [FieldTest.meets_noneOf, Grammar.combine_and]
  | between range =>
      have read := expression_comparison named
        (.range (Numeral.reads_ofInt range.earliest.toInt) (Numeral.reads_ofInt range.latest.toInt))
      have written : field.toList ++ ':' :: ('[' :: Numeral.ofInt range.earliest.toInt ++
          [' ', 'T', 'O', ' '] ++ Numeral.ofInt range.latest.toInt ++ [']']) =
            field.toList ++ [':', '['] ++ bound range.earliest ++ [' ', 'T', 'O', ' '] ++
              bound range.latest ++ [']'] := by
        simp [bound]
      rw [written] at read
      exact (Renders.query (.single read)).congr fun document => FieldTest.meets_between _ range
  | flag value =>
      have read := expression_comparison named (.word value)
      exact (Renders.query (.single read)).congr fun document => FieldTest.meets_flag _ value

/-- A test that asks for required values writes all of them, unless they have been written. -/
theorem renders_required {apart : Bool} {required : List String} {test : FieldTest}
    (plain : ∀ value ∈ required, IsPlain value.toList) (content : required ≠ [])
    (asks : asksRequired apart test = true) (written : Bool) :
    Renders (testParts field apart required written test) fun document =>
      written || FieldTest.meets (document.value? field) (.allOf required) := by
  have parts : testParts field apart required written test =
      ⟨if written then [] else terms .and field required, []⟩ := by
    cases test with
    | allOf => rfl
    | exact =>
        have kept : apart = false := by simpa [asksRequired] using asks
        subst kept
        rfl
    | _ => exact absurd asks Bool.false_ne_true
  rw [parts]
  cases written with
  | true => exact .query .nil
  | false =>
      have combined := combines_terms named .and plain fun same => by cases same
      refine (Renders.query combined).congr fun document => ?_
      rw [FieldTest.meets_allOf_of_ne_nil _ content, Grammar.combine_and]
      rfl

/-- The outcome of a test, where all the required values count for every test that asks for some of
them. -/
def outcome (apart : Bool) (required : List String) (value : Option Json) (test : FieldTest) :
    Bool :=
  if asksRequired apart test then FieldTest.meets value (.allOf required) else test.meets value

/-- The tests of a field are written with their outcomes together, provided that the field has the
required values if they have been written before. -/
theorem renders_tests {apart : Bool} {required : List String} {tests : List FieldTest}
    (writable : ∀ test ∈ tests, IsWritable field test)
    (plain : ∀ value ∈ required, IsPlain value.toList)
    (content : ∀ test ∈ tests, asksRequired apart test = true → required ≠ []) (written : Bool) :
    ∃ meaning, Renders (testsParts field apart required written tests) meaning ∧ ∀ document,
      (written = true → FieldTest.meets (document.value? field) (.allOf required) = true) →
        meaning document = tests.all (outcome apart required (document.value? field)) := by
  induction tests generalizing written with
  | nil => exact ⟨fun _ => true, .empty, fun _ _ => rfl⟩
  | cons test rest ih =>
      obtain ⟨later, rendered, outcomes⟩ := ih
        (fun test member => writable test (List.mem_cons_of_mem _ member))
        (fun test member => content test (List.mem_cons_of_mem _ member))
        (written || asksRequired apart test)
      cases asks : asksRequired apart test with
      | false =>
          have first := renders_test named (writable test List.mem_cons_self) asks required written
          refine ⟨_, first.append rendered, fun document met => ?_⟩
          rw [asks, Bool.or_false] at outcomes
          rw [List.all_cons, outcome, asks, if_neg Bool.false_ne_true, outcomes document met]
      | true =>
          have first := renders_required named plain (content test List.mem_cons_self asks) asks
            written
          refine ⟨_, first.append rendered, fun document met => ?_⟩
          rw [List.all_cons, outcome, asks, if_pos rfl]
          cases all : FieldTest.meets (document.value? field) (.allOf required) with
          | true => rw [outcomes document fun _ => all, Bool.or_true]
          | false =>
              cases written with
              | true => exact absurd (all.symm.trans (met rfl)) Bool.false_ne_true
              | false => rfl

end Tests

/-- The required values are those of the tests that ask for some. -/
theorem mem_requiredValues {apart : Bool} {tests : List FieldTest} {value : String} :
    value ∈ requiredValues apart tests ↔
      ∃ test ∈ tests, asksRequired apart test = true ∧ value ∈ test.texts := by
  rw [requiredValues, List.mem_flatMap]
  constructor
  · rintro ⟨test, member, inside⟩
    refine ⟨test, member, ?_⟩
    cases test with
    | allOf values => exact ⟨rfl, inside⟩
    | exact values =>
        cases apart with
        | false => exact ⟨rfl, inside⟩
        | true => exact absurd inside List.not_mem_nil
    | _ => exact absurd inside List.not_mem_nil
  · rintro ⟨test, member, asks, inside⟩
    refine ⟨test, member, ?_⟩
    cases test with
    | allOf values => exact inside
    | exact values =>
        cases apart with
        | false => exact inside
        | true => exact absurd asks Bool.false_ne_true
    | _ => exact absurd asks Bool.false_ne_true

/-- A test that asks for required values is met where all of them are. -/
theorem meets_of_asksRequired {apart : Bool} {test : FieldTest} (value : Option Json)
    (asks : asksRequired apart test = true) :
    test.meets value = FieldTest.meets value (.allOf test.texts) := by
  cases test with
  | allOf values => rfl
  | exact values => exact FieldTest.meets_exact value values
  | _ => exact absurd asks Bool.false_ne_true

/-- Asking for all required values at once is the same as asking for those of each test. -/
theorem all_outcome (apart : Bool) (tests : List FieldTest) (value : Option Json) :
    tests.all (outcome apart (requiredValues apart tests) value) =
      tests.all (FieldTest.meets value) := by
  rw [Bool.eq_iff_iff, List.all_eq_true, List.all_eq_true]
  constructor
  · intro outcomes test member
    have met := outcomes test member
    cases asks : asksRequired apart test with
    | false => rwa [outcome, asks, if_neg Bool.false_ne_true] at met
    | true =>
        rw [outcome, asks, if_pos rfl, FieldTest.meets_allOf, Bool.and_eq_true,
          List.all_eq_true] at met
        rw [meets_of_asksRequired value asks, FieldTest.meets_allOf, Bool.and_eq_true,
          List.all_eq_true]
        exact ⟨met.1, fun text inside =>
          met.2 text (mem_requiredValues.mpr ⟨test, member, asks, inside⟩)⟩
  · intro met test member
    rw [outcome]
    split
    · rename_i asks
      have own := met test member
      rw [meets_of_asksRequired value asks, FieldTest.meets_allOf, Bool.and_eq_true] at own
      rw [FieldTest.meets_allOf, Bool.and_eq_true, List.all_eq_true]
      refine ⟨own.1, fun text required => ?_⟩
      obtain ⟨other, otherMember, otherAsks, inside⟩ := mem_requiredValues.mp required
      have others := met other otherMember
      rw [meets_of_asksRequired value otherAsks, FieldTest.meets_allOf, Bool.and_eq_true,
        List.all_eq_true] at others
      exact others.2 text inside
    · exact met test member

/-- A clause is written with its meaning. -/
theorem renders_clause {clause : Clause} (writable : clause.ConsistsOf IsWritable)
    (settings : PortalSettings) (routeExact : Bool) :
    Renders (clauseParts settings routeExact clause) fun document => clause.holds document := by
  unfold clauseParts
  dsimp only
  generalize (routeExact && settings.isFilterable clause.field) = apart
  obtain ⟨someTest, tests⟩ := writable
  have plain : ∀ value ∈ requiredValues apart clause.tests, IsPlain value.toList := by
    intro value required
    obtain ⟨test, member, _, inside⟩ := mem_requiredValues.mp required
    exact (tests test member).plain value inside
  have content : ∀ test ∈ clause.tests, asksRequired apart test = true →
      requiredValues apart clause.tests ≠ [] := by
    intro test member asks
    have some : test.texts ≠ [] := by
      have wellFormed := (tests test member).wellFormed
      cases test with
      | allOf values => exact wellFormed
      | exact values => exact wellFormed
      | _ => exact absurd asks Bool.false_ne_true
    obtain ⟨value, inside⟩ := List.exists_mem_of_ne_nil _ some
    exact List.ne_nil_of_mem (mem_requiredValues.mpr ⟨test, member, asks, inside⟩)
  obtain ⟨test, member⟩ := List.exists_mem_of_ne_nil _ someTest
  obtain ⟨meaning, rendered, outcomes⟩ :=
    renders_tests (tests test member).named tests plain content false
  refine rendered.congr fun document => ?_
  rw [outcomes document fun written => absurd written Bool.false_ne_true, all_outcome]
  rfl

/-- A conjunction is written with its meaning. -/
theorem renders_conjunction {conjunction : Conjunction}
    (writable : conjunction.ConsistsOf IsWritable) (settings : PortalSettings)
    (routeExact : Bool) :
    Renders (conjunctionParts settings routeExact conjunction)
      fun document => conjunction.holds document :=
  (Renders.foldr fun clause member =>
    renders_clause (writable.2 clause member) settings routeExact).group

section Disjunctions

variable (settings : PortalSettings)

/-- Without sending apart, tests write into the query only. -/
theorem exact_testsParts (field : String) (required : List String) (written : Bool)
    (tests : List FieldTest) : (testsParts field false required written tests).exact = [] := by
  induction tests generalizing written with
  | nil => rfl
  | cons test rest ih =>
      have first : (testParts field false required written test).exact = [] := by
        cases test <;> rfl
      rw [testsParts, Parts.append, first, ih]
      rfl

/-- Nothing is sent apart unless it is asked for. -/
theorem exact_conjunctionParts (conjunction : Conjunction) :
    (conjunctionParts settings false conjunction).exact = [] := by
  have none (clauses : List Clause) : (clauses.foldr (fun clause parts =>
      (clauseParts settings false clause).append parts) .empty).exact = [] := by
    induction clauses with
    | nil => rfl
    | cons first rest ih =>
        rw [List.foldr_cons, Parts.append, ih, List.append_nil]
        exact exact_testsParts _ _ _ _
  rw [conjunctionParts, Parts.group, none]
  rfl

/-- A group is one text at most. -/
theorem length_group_le (connective : Connective) (texts : List (List Char)) :
    (group connective texts).length ≤ 1 := by
  unfold group
  split <;> simp

/-- The document without members matches no conjunction that has a test. -/
theorem holds_empty {conjunction : Conjunction} (writable : conjunction.ConsistsOf IsWritable) :
    conjunction.holds .empty = false := by
  obtain ⟨content, consisting⟩ := writable
  obtain ⟨clause, rest, clauses⟩ := List.exists_cons_of_ne_nil content
  have someTest := (consisting clause (clauses ▸ List.mem_cons_self)).1
  obtain ⟨test, others, tests⟩ := List.exists_cons_of_ne_nil someTest
  have missing : Document.empty.value? clause.field = none := rfl
  rw [Conjunction.holds, clauses, List.all_cons, Clause.holds, tests, List.all_cons, missing,
    FieldTest.meets_none]
  rfl

/-- A conjunction whose values all stay in the search text is one expression. -/
theorem conjunctionParts_eq_single {conjunction : Conjunction}
    (writable : conjunction.ConsistsOf IsWritable) :
    ∃ text, conjunctionParts settings false conjunction = ⟨[text], []⟩ ∧
      Expression text fun document => conjunction.holds document := by
  have rendered := renders_conjunction writable settings false
  have apart := exact_conjunctionParts settings conjunction
  have few : (conjunctionParts settings false conjunction).query.length ≤ 1 :=
    length_group_le .and _
  generalize conjunctionParts settings false conjunction = parts at rendered apart few
  obtain ⟨texts, others⟩ := parts
  obtain rfl : others = [] := apart
  obtain ⟨asked, exact, query, ⟨sent, none, _, always⟩, outcome⟩ := rendered
  obtain rfl := List.map_eq_nil_iff.mp none
  have same : ∀ document, conjunction.holds document = asked document := by
    intro document
    have both := outcome document
    rw [always document] at both
    exact both.trans (Bool.and_true _)
  rcases texts with _ | ⟨text, _ | ⟨second, rest⟩⟩
  · -- Without a text the conjunction would hold of every document.
    obtain ⟨written, blank, _, everywhere⟩ := query
    obtain rfl := List.map_eq_nil_iff.mp blank
    have holds := (same .empty).trans (everywhere .empty)
    rw [holds_empty writable] at holds
    exact absurd holds Bool.false_ne_true
  · exact ⟨text, rfl, (query.congr same).read_single⟩
  · simp at few

/-- Conjunctions that are one expression each are combined as they are. -/
theorem exists_foldr_eq {conjunctions : List Conjunction}
    (writable : ∀ conjunction ∈ conjunctions, conjunction.ConsistsOf IsWritable) :
    ∃ texts, conjunctions.foldr (fun conjunction parts =>
        (conjunctionParts settings false conjunction).append parts) .empty = ⟨texts, []⟩ ∧
      (conjunctions ≠ [] → texts ≠ []) ∧ Combines Expression .or texts fun document =>
        Connective.or.combine (conjunctions.map (Conjunction.holds document)) := by
  induction conjunctions with
  | nil =>
      exact ⟨[], rfl, fun content => absurd rfl content, [], rfl,
        fun _ member => absurd member List.not_mem_nil, fun _ => rfl⟩
  | cons first rest ih =>
      obtain ⟨text, single, read⟩ :=
        conjunctionParts_eq_single settings (writable first List.mem_cons_self)
      obtain ⟨texts, others, _, parts, rfl, expressions, outcome⟩ := ih fun conjunction member =>
        writable conjunction (List.mem_cons_of_mem _ member)
      refine ⟨text :: parts.map Prod.fst, ?_, fun _ => List.cons_ne_nil _ _,
        (text, fun document => first.holds document) :: parts, rfl, ?_, fun document => ?_⟩
      · rw [List.foldr_cons, others, single]
        rfl
      · intro part member
        rcases List.mem_cons.mp member with rfl | member
        · exact read
        · exact expressions part member
      · have later := outcome document
        simp only [Connective.combine, List.map_cons, List.any_cons] at later ⊢
        rw [later]

end Disjunctions

/-- A group is written with its meaning. -/
theorem renders_group {group : CriteriaGroup} (writable : group.ConsistsOf IsWritable)
    (settings : PortalSettings) :
    Renders (groupParts settings group) fun document => group.holds document := by
  obtain ⟨connective, conjunctions⟩ := group
  obtain ⟨content, writable⟩ := writable
  unfold groupParts
  cases connective with
  | and =>
      have rendered := Renders.foldr fun conjunction member =>
        renders_conjunction (writable conjunction member) settings true
      exact rendered.group.congr fun document => List.all_map
  | or =>
      rcases conjunctions with _ | ⟨first, _ | ⟨second, rest⟩⟩
      · exact absurd rfl content
      · have rendered := renders_conjunction (writable first (List.mem_singleton.mpr rfl))
          settings true
        have alone : (conjunctionParts settings true first).append .empty =
            conjunctionParts settings true first := by
          simp [Parts.append, Parts.empty]
        have grouped := rendered.group_of_few .or (length_group_le .and _) (length_group_le .and _)
        rw [← alone] at grouped
        exact grouped.congr fun document => Bool.or_false _
      · obtain ⟨texts, joined, some, combined⟩ := exists_foldr_eq settings writable
        have stays : ((decide (Connective.or = .and)) ||
            (first :: second :: rest).length == 1) = false := by
          simp
        dsimp only
        rw [stays, joined]
        exact .query (combines_group combined fun _ => some content)

/-- Criteria are written with their meaning. -/
theorem renders_criteria {criteria : Criteria}
    (writable : ∀ group ∈ criteria.groups, group.ConsistsOf IsWritable)
    (settings : PortalSettings) :
    Renders (criteria.groups.foldr (fun group parts =>
        (groupParts settings group).append parts) .empty)
      fun document => criteria.holds document :=
  Renders.foldr fun group member => renders_group (writable group member) settings

/-- What the texts of a part of a search say together is the meaning of the part. -/
theorem reading_topLevel {texts : List (List Char)} {meaning : Document → Bool}
    (combined : Combines Expression .and texts meaning) : Reading (topLevel texts) meaning := by
  unfold topLevel
  rw [filter_eq combined]
  obtain ⟨parts, rfl, read, rfl⟩ := combined.exists_parts
  rcases parts with _ | ⟨first, rest⟩
  · exact .absent
  · have content : (separator .and).intercalate ((first :: rest).map Prod.fst) ≠ [] := by
      rw [List.map_cons, Grammar.intercalate_cons]
      exact List.append_ne_nil_of_left_ne_nil (read first List.mem_cons_self).ne_nil _
    split
    · rename_i none
      exact absurd none content
    · refine .text ?_
      rw [String.toList_ofList]
      exact .all (List.cons_ne_nil _ _) read

end Portal

/-- **Portal searches find what the criteria match.** If the fields that the portal takes are names
and no value needs an escape, each text of the search of a query has exactly one meaning, and a
document matches the criteria of the query when both texts find it. -/
theorem PortalSearch.reading_ofQuery {settings : PortalSettings} {now : Instant} {query : Query}
    (named : ∀ field ∈ settings.allowedFields, Grammar.IsName field.toList)
    (evaluable : (query.criteria now settings.includes).WithoutFreeText)
    (plain : (query.criteria now settings.includes).EveryTest fun _ test =>
      ∀ value ∈ test.texts, Portal.IsPlain value.toList) :
    ∃ asked exact : Document → Bool,
      (∀ meaning, Portal.Reading (ofQuery settings now query).query meaning ↔ meaning = asked) ∧
      (∀ meaning, Portal.Reading (ofQuery settings now query).exact meaning ↔ meaning = exact) ∧
      ∀ document, (query.criteria now settings.includes).matches document =
        .ok (asked document && exact document) := by
  have allowed : (query.criteria now settings.includes).EveryTest fun field _ =>
      Grammar.IsName field.toList :=
    query.included_criteria.imp fun included => by
      rw [PortalSettings.includes, Bool.and_eq_true] at included
      exact named _ (List.contains_iff_mem.mp included.2)
  have every : (query.criteria now settings.includes).EveryTest Portal.IsWritable :=
    ((allowed.and query.wellFormed_criteria).and (.and evaluable plain)).imp
      fun ⟨⟨named, wellFormed⟩, evaluable, plain⟩ => ⟨named, wellFormed, evaluable, plain⟩
  have writable := Query.consistsOf_criteria every
  obtain ⟨asked, exact, combined, sent, outcome⟩ := Portal.renders_criteria writable settings
  refine ⟨asked, exact, fun meaning => ?_, fun meaning => ?_, fun document => ?_⟩
  · have read := Portal.reading_topLevel combined
    exact ⟨read.unique, fun same => same ▸ read⟩
  · have read := Portal.reading_topLevel sent
    exact ⟨read.unique, fun same => same ▸ read⟩
  · rw [Criteria.matches_eq_holds evaluable]
    exact congrArg Except.ok (outcome document)

/-- Values with blanks, parentheses and keywords in a disjunction, and an exact value that is sent
apart. -/
theorem PortalSearch.reading_ofQuery_apart :
    let settings : PortalSettings := ⟨["owner", "tags", "type"], ["owner"], []⟩
    let query : Query := ⟨.item,
      [⟨.or, [.ofEntries [("type", .options ⟨none, none, some (.one "Web Map (old)"), none⟩)],
          .ofEntries [("tags", .list ["one", "AND"])]]⟩,
        ⟨.and, [.ofEntries [("owner", .options ⟨none, none, none, some (.one "casey")⟩)]]⟩]⟩
    let search := ofQuery settings .epoch query
    search.query = some "((type:* AND -type:\"Web Map (old)\") OR (tags:\"one\" OR tags:\"AND\"))" ∧
      search.exact = some "owner:\"casey\"" ∧
      ∃ asked exact : Document → Bool,
        (∀ meaning, Portal.Reading search.query meaning ↔ meaning = asked) ∧
        (∀ meaning, Portal.Reading search.exact meaning ↔ meaning = exact) ∧
        ∀ document, (query.criteria .epoch settings.includes).matches document =
          .ok (asked document && exact document) := by
  intro settings query search
  have named : ∀ field ∈ settings.allowedFields, Grammar.IsName field.toList := by
    have identifiers : ∀ field ∈ settings.allowedFields, Grammar.IsIdentifier field.toList := by
      decide
    exact fun field member => (identifiers field member).isName
  have evaluable : (query.criteria .epoch settings.includes).WithoutFreeText := by
    unfold Criteria.WithoutFreeText Criteria.EveryTest
    decide
  have plain : (query.criteria .epoch settings.includes).EveryTest fun _ test =>
      ∀ value ∈ test.texts, Portal.IsPlain value.toList := by
    unfold Criteria.EveryTest
    decide
  exact ⟨by decide, by decide, reading_ofQuery named evaluable plain⟩

end CatalogSearch
