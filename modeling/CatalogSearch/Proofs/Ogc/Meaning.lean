import CatalogSearch.Proofs.Criteria.WellFormed
import CatalogSearch.Proofs.Ogc.Grammar

/-!
# The meaning of filter expressions

The expression of a query finds what its criteria match (`Ogc.reading_expression`). Every level of
the criteria is written as one expression, once its conjunctions stand between parentheses.
-/

namespace CatalogSearch

namespace Ogc

open Grammar (Combines)

/-- Whether a value can be written: it is not empty, and if it is written as a word then no comma or
parenthesis ends it early. -/
def IsSafe (value : String) : Prop :=
  value ≠ "" ∧ (needsQuotes value.toList = true ∨
    ∀ character ∈ value.toList, [',', '(', ')'].contains character = false)

instance (value : String) : Decidable (IsSafe value) :=
  decidable_of_iff (value ≠ "" ∧ (needsQuotes value.toList = true ∨
    value.toList.all (fun character => !([',', '(', ')'].contains character)) = true))
    (by simp [IsSafe])

/-- Whether a test of a field can be written: the field has a name, the test is no free text, it has
texts if it compares with a list, and its texts can be written. -/
structure IsWritable (field : String) (test : FieldTest) : Prop where
  named : Grammar.IsName field.toList
  wellFormed : test.WellFormed
  evaluable : test.isFreeText = false
  safe : ∀ value ∈ test.texts, IsSafe value

/-- A value with its quotes doubled is read as the value. -/
theorem quoted_flatMap (value : List Char) : Quoted (value.flatMap quotedCharacter) value := by
  induction value with
  | nil => exact .nil
  | cons first rest ih =>
      rw [List.flatMap_cons, quotedCharacter]
      split
      · rename_i quote
        rw [quote]
        exact .quote ih
      · rename_i plain
        exact .other plain ih

/-- A value is read back from the way it is written. -/
theorem literal_read {value : String} (safe : IsSafe value) : Literal (literal value) value := by
  obtain ⟨content, quoted | plain⟩ := safe
  · have read := Literal.quoted (quoted_flatMap value.toList)
    rw [String.ofList_toList] at read
    rwa [literal, if_pos quoted]
  · unfold literal
    split
    · have read := Literal.quoted (quoted_flatMap value.toList)
      rwa [String.ofList_toList] at read
    · rename_i unquoted
      have word : ∀ character ∈ value.toList, goesOn character = true ∧ character ≠ '\x27' := by
        intro character member
        have bare : ¬ (Text.isBlank character || character == '\x27') = true := fun quotes =>
          unquoted (List.any_eq_true.mpr ⟨character, member, quotes⟩)
        have separate := plain character member
        simp_all [goesOn]
      have read := Literal.word (by simpa using content) word
      rwa [String.ofList_toList] at read

/-- Expressions in parentheses are one expression. -/
theorem expression_group {connective : Connective} {texts : List (List Char)}
    {meaning : Document → Bool} (combined : Combines Expression connective texts meaning)
    (content : texts ≠ []) :
    Expression (enclosed ((separator connective).intercalate texts)) meaning := by
  obtain ⟨parts, rfl, read, outcome⟩ := combined
  have same : meaning = fun document =>
      connective.combine (parts.map fun part => part.2 document) :=
    funext outcome
  rw [same]
  refine .group ?_ read
  rintro rfl
  exact content rfl

section Tests

variable {field : String} (named : Grammar.IsName field.toList)

include named

/-- An operand behind the name of a field is read of that field. -/
theorem expression_operand {operand : List Char} {outcome : Option Json → Bool}
    (read : Operand operand outcome) :
    Expression (field.toList ++ operand) fun document => outcome (document.value? field) :=
  Grammar.reads_value field (.comparison named read)

/-- A comparison with a value is read as the test for it. -/
theorem expression_comparison {value : String} (safe : IsSafe value) :
    Expression (comparison field value) fun document => hasText value (document.value? field) :=
  expression_operand named (.equal (literal_read safe))

/-- Values that must all be present are compared one by one. -/
theorem expression_requirement {values : List String} (content : values ≠ [])
    (safe : ∀ value ∈ values, IsSafe value) :
    Expression (testText?.requirement field values)
      fun document => FieldTest.meets (document.value? field) (.allOf values) := by
  have combined : Combines Expression .and (values.map (comparison field))
      fun document => FieldTest.meets (document.value? field) (.allOf values) := by
    have compared : Combines Expression .and (values.map (comparison field)) _ :=
      .of_forall fun value member => expression_comparison named (safe value member)
    refine compared.congr fun document => ?_
    rw [FieldTest.meets_allOf_of_ne_nil _ content, Grammar.combine_and]
  rcases values with _ | ⟨first, _ | ⟨second, rest⟩⟩
  · exact absurd rfl content
  · exact combined.read_single
  · exact expression_group combined (List.cons_ne_nil _ _)

omit named in
/-- Literals are read as the values they are written for. -/
theorem literals_read {values : List String} (content : values ≠ [])
    (safe : ∀ value ∈ values, IsSafe value) :
    ∃ parts : List (List Char × String), parts ≠ [] ∧ (∀ part ∈ parts, Literal part.1 part.2) ∧
      parts.map Prod.fst = values.map literal ∧ parts.map Prod.snd = values := by
  refine ⟨values.map fun value => (literal value, value), by simpa using content, ?_, ?_, ?_⟩
  · intro part member
    obtain ⟨value, inside, rfl⟩ := List.mem_map.mp member
    exact literal_read (safe value inside)
  · rw [List.map_map]
    rfl
  · rw [List.map_map]
    exact List.map_id _

omit named in
/-- A membership is written as a name, a keyword and a list in parentheses. -/
theorem membership_eq (field keyword : String) (values : List String) :
    membership field keyword values =
      field.toList ++ ((' ' :: keyword.toList ++ [' ']) ++ enclosed (literals values)) := by
  simp [membership]

/-- A comparison of a field with a list of values, whatever the keyword in front asks of them. -/
theorem expression_membership {values : List String} (content : values ≠ [])
    (safe : ∀ value ∈ values, IsSafe value) {keyword : String}
    {test : List String → FieldTest}
    (operand : ∀ parts : List (List Char × String), parts ≠ [] →
      (∀ part ∈ parts, Literal part.1 part.2) →
        Operand ((' ' :: keyword.toList ++ [' ']) ++
          enclosed ([',', ' '].intercalate (parts.map Prod.fst)))
            fun value => (test (parts.map Prod.snd)).meets value) :
    Expression (membership field keyword values)
      fun document => (test values).meets (document.value? field) := by
  obtain ⟨parts, some, read, written, rfl⟩ := literals_read content safe
  have compared := expression_operand named (operand parts some read)
  rw [written] at compared
  rw [membership_eq]
  exact compared

end Tests

/-- A test is written with its meaning. -/
theorem exists_testText {field : String} {test : FieldTest} (writable : IsWritable field test) :
    ∃ text, testText? field test = some text ∧
      Expression text fun document => test.meets (document.value? field) := by
  obtain ⟨named, wellFormed, evaluable, safe⟩ := writable
  cases test with
  | freeText text => exact absurd evaluable.symm Bool.false_ne_true
  | equals value =>
      refine ⟨_, rfl, ?_⟩
      simp only [FieldTest.meets_equals]
      exact expression_comparison named (safe value (List.mem_singleton.mpr rfl))
  | anyOf values =>
      rcases values with _ | ⟨value, _ | ⟨second, rest⟩⟩
      · exact absurd rfl wellFormed
      · refine ⟨_, rfl, ?_⟩
        simp only [FieldTest.meets_anyOf, List.any_cons, List.any_nil, Bool.or_false]
        exact expression_comparison named (safe value (List.mem_singleton.mpr rfl))
      · refine ⟨_, rfl, expression_membership named wellFormed safe fun parts some read => ?_⟩
        simp only [FieldTest.meets_anyOf, List.any_map]
        exact .among some read
  | allOf values => exact ⟨_, rfl, expression_requirement named wellFormed safe⟩
  | exact values =>
      refine ⟨_, rfl, ?_⟩
      simp only [FieldTest.meets_exact]
      exact expression_requirement named wellFormed safe
  | noneOf values =>
      refine ⟨_, rfl, expression_membership named wellFormed safe fun parts some read => ?_⟩
      simp only [FieldTest.meets_noneOf, List.all_map]
      exact .notAmong some read
  | between range =>
      have compared := expression_operand named (.between
        (Numeral.reads_ofInt range.earliest.toInt) (Numeral.reads_ofInt range.latest.toInt))
      refine ⟨_, rfl, ?_⟩
      simp only [FieldTest.meets_between]
      simpa using compared
  | flag value =>
      have word : (if value then "true" else "false").toList = literal (flagText value) := by
        cases value <;> decide
      have plain : IsSafe (flagText value) := by
        cases value <;> decide
      refine ⟨_, rfl, ?_⟩
      simp only [FieldTest.meets_flag]
      rw [word]
      exact expression_comparison named plain

/-- A clause is written with its meaning. -/
theorem exists_clauseText {clause : Clause} (writable : clause.ConsistsOf IsWritable) :
    ∃ text, clauseText? clause = some text ∧
      Expression text fun document => clause.holds document := by
  have tests : ∀ test ∈ clause.tests, ∃ text, testText? clause.field test = some text ∧
      Expression text fun document => test.meets (document.value? clause.field) :=
    fun test member => exists_testText (writable.2 test member)
  have combined : Combines Expression .and (clause.tests.filterMap (testText? clause.field))
      fun document => clause.holds document := by
    refine (Combines.of_filterMap tests).congr fun document => ?_
    rw [Grammar.combine_and]
    rfl
  have content : clause.tests.filterMap (testText? clause.field) ≠ [] :=
    Grammar.filterMap_ne_nil writable.1 fun test member none => by
      obtain ⟨text, some, _⟩ := tests test member
      rw [none] at some
      cases some
  unfold clauseText?
  generalize clause.tests.filterMap (testText? clause.field) = texts at combined content
  rcases texts with _ | ⟨text, _ | ⟨second, rest⟩⟩
  · exact absurd rfl content
  · exact ⟨text, rfl, combined.read_single⟩
  · exact ⟨_, rfl, expression_group combined content⟩

section Conjunctions

variable {conjunction : Conjunction} (writable : conjunction.ConsistsOf IsWritable)

include writable

/-- The texts of the clauses of a conjunction combine to its meaning, and there are some. -/
theorem combines_clauseTexts :
    conjunction.clauses.filterMap clauseText? ≠ [] ∧
      Combines Expression .and (conjunction.clauses.filterMap clauseText?)
        fun document => conjunction.holds document := by
  have clauses : ∀ clause ∈ conjunction.clauses, ∃ text, clauseText? clause = some text ∧
      Expression text fun document => clause.holds document :=
    fun clause member => exists_clauseText (writable.2 clause member)
  constructor
  · refine Grammar.filterMap_ne_nil writable.1 fun clause member none => ?_
    obtain ⟨text, some, _⟩ := clauses clause member
    rw [none] at some
    cases some
  · refine (Combines.of_filterMap clauses).congr fun document => ?_
    rw [Grammar.combine_and]
    rfl

/-- A conjunction in parentheses is written with its meaning. -/
theorem expression_conjunctionText : Expression (enclosed (conjunctionText conjunction))
    fun document => conjunction.holds document :=
  expression_group (combines_clauseTexts writable).2 (combines_clauseTexts writable).1

theorem conjunctionText_ne_nil : conjunctionText conjunction ≠ [] := by
  obtain ⟨content, combined⟩ := combines_clauseTexts writable
  exact Grammar.intercalate_ne_nil content (combined.ne_nil_of_mem Expression.ne_nil)

end Conjunctions

section Groups

variable {group : CriteriaGroup} (writable : group.ConsistsOf IsWritable)

include writable

/-- No conjunction is left out. -/
theorem groupText_eq : groupText group = enclosed ((separator group.connective).intercalate
    (group.conjunctions.map fun conjunction => enclosed (conjunctionText conjunction))) := by
  have kept : ∀ text ∈ group.conjunctions.map conjunctionText, text ≠ [] := by
    intro text member
    obtain ⟨conjunction, inside, rfl⟩ := List.mem_map.mp member
    exact conjunctionText_ne_nil (writable.2 conjunction inside)
  rw [groupText, Grammar.filter_eq_self kept, List.map_map]
  rfl

/-- A group is written with its meaning. -/
theorem expression_groupText :
    Expression (groupText group) fun document => group.holds document := by
  rw [groupText_eq writable]
  refine expression_group ?_ ?_
  · exact Combines.of_forall fun conjunction member =>
      expression_conjunctionText (writable.2 conjunction member)
  · simpa using writable.1

/-- A group is not taken for one without content. -/
theorem groupText_ne_enclosed : groupText group ≠ enclosed [] := by
  rw [groupText_eq writable]
  intro blank
  refine Grammar.intercalate_ne_nil ?_ ?_ (List.append_cancel_right (List.cons.inj blank).2)
  · simpa using writable.1
  · intro text member
    obtain ⟨conjunction, _, rfl⟩ := List.mem_map.mp member
    exact List.cons_ne_nil _ _

end Groups

/-- The expression of criteria has their meaning. -/
theorem reading_expressionOf {criteria : Criteria}
    (writable : ∀ group ∈ criteria.groups, group.ConsistsOf IsWritable) :
    Reading (expressionOf criteria) fun document => criteria.holds document := by
  have kept : (criteria.groups.map groupText).filter (fun text => text != enclosed []) =
      criteria.groups.map groupText := by
    refine List.filter_eq_self.mpr fun text member => ?_
    obtain ⟨group, inside, rfl⟩ := List.mem_map.mp member
    simpa using groupText_ne_enclosed (writable group inside)
  have combined : Combines Expression .and (criteria.groups.map groupText)
      fun document => criteria.holds document := by
    have groups : Combines Expression .and (criteria.groups.map groupText) _ :=
      .of_forall fun group member => expression_groupText (writable group member)
    refine groups.congr fun document => ?_
    rw [Grammar.combine_and]
    rfl
  obtain ⟨parts, written, read, same⟩ := combined.exists_parts
  rw [same]
  refine .all read ?_
  rw [expressionOf, String.toList_ofList, kept, written]

/-- **Filter expressions find what the criteria match.** If the fields of a query have names and its
values can be written, its expression has exactly one meaning, and this is to match the criteria. -/
theorem reading_expression {settings : OgcSettings} {now : Instant} {query : Query}
    (evaluable : (query.criteria now settings.includes).WithoutFreeText)
    (named : (query.criteria now settings.includes).EveryTest fun field _ =>
      Grammar.IsName field.toList)
    (safe : (query.criteria now settings.includes).EveryTest fun _ test =>
      ∀ value ∈ test.texts, IsSafe value) :
    ∃ found : Document → Bool,
      (∀ meaning, Reading (expression settings now query) meaning ↔ meaning = found) ∧
      ∀ document, (query.criteria now settings.includes).matches document =
        .ok (found document) := by
  have every : (query.criteria now settings.includes).EveryTest IsWritable :=
    ((named.and query.wellFormed_criteria).and (.and evaluable safe)).imp
      fun ⟨⟨named, wellFormed⟩, evaluable, safe⟩ => ⟨named, wellFormed, evaluable, safe⟩
  have read := reading_expressionOf (Query.consistsOf_criteria every)
  refine ⟨_, fun meaning => ⟨read.unique, fun same => ?_⟩, fun document => ?_⟩
  · rw [same]
    exact read
  · exact Criteria.matches_eq_holds evaluable document

/-- A disjunction with a list that contains a quote, and a range whose text contains a keyword. -/
theorem reading_expression_quoted :
    let settings : OgcSettings := .initial
    let query : Query := ⟨.item,
      [⟨.or, [.ofEntries [("tags", .list ["a", "it's (new)"]), ("owner", .text "casey")],
          .ofEntries [("type", .options ⟨none, none, some (.one "Web Map"), none⟩)]]⟩,
        ⟨.and, [.ofEntries [("created", .range ⟨-1, 1⟩)]]⟩]⟩
    expression settings .epoch query =
        "((tags IN (a, 'it''s (new)') AND owner=casey) OR (type NOT IN ('Web Map'))) AND " ++
          "((created BETWEEN -1 AND 1))" ∧
      ∃ found : Document → Bool,
        (∀ meaning, Reading (expression settings .epoch query) meaning ↔ meaning = found) ∧
        ∀ document, (query.criteria .epoch settings.includes).matches document =
          .ok (found document) := by
  intro settings query
  have evaluable : (query.criteria .epoch settings.includes).WithoutFreeText := by
    unfold Criteria.WithoutFreeText Criteria.EveryTest
    decide
  have named : (query.criteria .epoch settings.includes).EveryTest fun field _ =>
      Grammar.IsName field.toList := by
    unfold Criteria.EveryTest
    decide
  have safe : (query.criteria .epoch settings.includes).EveryTest fun _ test =>
      ∀ value ∈ test.texts, IsSafe value := by
    unfold Criteria.EveryTest
    decide
  exact ⟨by decide +kernel, reading_expression evaluable named safe⟩

end Ogc

end CatalogSearch
