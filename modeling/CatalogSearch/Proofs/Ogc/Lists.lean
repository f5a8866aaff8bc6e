import CatalogSearch.Proofs.Criteria.WellFormed
import CatalogSearch.Proofs.Expansion.Fields
import CatalogSearch.Proofs.Ogc.Items
import CatalogSearch.Proofs.Syntax.Contents
import Mathlib.Data.List.Forall2

/-!
# Lists in filter expressions

A reader of an expression follows its quotes and parentheses and keeps what stands between the
parentheses behind `IN`. If the parentheses of every value that is written without quotes are
balanced, then so are those of the expression, and it has one list for every test that writes one;
the list is read back as the values of the test exactly if none of these contains a comma outside of
quotes (`Ogc.listValues_expression_iff`).
-/

namespace CatalogSearch

namespace Ogc

open Grammar (ReadsAll)

/-- A reader of an expression: whether it is in quotes, what it has read between the innermost
parentheses that are open and what in front of each of them, last character first, and the lists
that it has read. -/
structure Reader where
  quoted : Bool
  text : List Char
  outer : List (List Char)
  lists : List (List Char)

/-- Whether a parenthesis behind a text, given from its end, opens a list. -/
def opensList (text : List Char) : Bool :=
  [' ', 'N', 'I', ' '].isPrefixOf text

namespace Reader

/-- The reader in front of an expression. -/
def start : Reader :=
  ⟨false, [], [], []⟩

/-- The reader behind a closing parenthesis, if one is open. What stands between the parentheses is
kept if it is a list. -/
def close? (reader : Reader) : Option Reader :=
  match reader.outer with
  | [] => none
  | text :: outer =>
      let closed := if opensList text then [reader.text.reverse] else []
      some ⟨false, ')' :: reader.text ++ '(' :: text, outer, reader.lists ++ closed⟩

/-- The reader behind a character, if this closes no parenthesis that is not open. A doubled quote
ends a quoted value and begins it again. -/
def step? (reader : Reader) (character : Char) : Option Reader :=
  if character = '\x27' then
    some ⟨!reader.quoted, character :: reader.text, reader.outer, reader.lists⟩
  else if reader.quoted then
    some ⟨true, character :: reader.text, reader.outer, reader.lists⟩
  else if character = '(' then some ⟨false, [], reader.text :: reader.outer, reader.lists⟩
  else if character = ')' then reader.close?
  else some ⟨false, character :: reader.text, reader.outer, reader.lists⟩

/-- The reader behind a text, if all its parentheses are open before they are closed. -/
def readAll? (reader : Reader) (text : List Char) : Option Reader :=
  text.foldlM step? reader

end Reader

/-- The lists in a text, if its parentheses outside of quotes are balanced, with none closed before
it is open, and its quotes are closed. -/
def listsIn? (text : List Char) : Option (List (List Char)) :=
  ((Reader.start.readAll? text).filter fun reader => !reader.quoted && reader.outer.isEmpty).map
    Reader.lists

/-- Whether a value is written with quotes, or else its parentheses are balanced. -/
def IsContained (value : String) : Prop :=
  needsQuotes value.toList = true ∨ (listsIn? value.toList).isSome = true

instance (value : String) : Decidable (IsContained value) :=
  inferInstanceAs (Decidable (_ ∨ _))

/-- The values that a test writes as a list. -/
def listed : FieldTest → List (List String)
  | .anyOf [_] => []
  | .anyOf values => [values]
  | .noneOf values => [values]
  | _ => []

/-- The values that criteria write as lists. -/
def listedValues (criteria : Criteria) : List (List String) :=
  criteria.groups.flatMap fun group => group.conjunctions.flatMap fun conjunction =>
    conjunction.clauses.flatMap fun clause => clause.tests.flatMap listed

/-- Whether a reader outside of quotes goes through a text with its parentheses, in which it reads
some lists, where no list begins in front of the text. None begins behind it either. -/
def Passes (text : List Char) (lists : List (List Char)) : Prop :=
  ∀ (current : List Char) (outer found : List (List Char)), opensList current = false →
    Reader.readAll? ⟨false, current, outer, found⟩ text =
        some ⟨false, text.reverse ++ current, outer, found ++ lists⟩ ∧
      opensList (text.reverse ++ current) = false

namespace Reader

variable {current : List Char} {outer found : List (List Char)}

@[simp] theorem readAll?_nil (reader : Reader) : reader.readAll? [] = some reader :=
  rfl

@[simp] theorem readAll?_cons (reader : Reader) (first : Char) (rest : List Char) :
    reader.readAll? (first :: rest) = (reader.step? first).bind fun next => next.readAll? rest :=
  rfl

theorem readAll?_append (reader : Reader) (first second : List Char) :
    reader.readAll? (first ++ second) =
      (reader.readAll? first).bind fun next => next.readAll? second :=
  List.foldlM_append

@[simp] theorem step?_quote (quoted : Bool) : step? ⟨quoted, current, outer, found⟩ '\x27' =
    some ⟨!quoted, '\x27' :: current, outer, found⟩ :=
  rfl

@[simp] theorem step?_open : step? ⟨false, current, outer, found⟩ '(' =
    some ⟨false, [], current :: outer, found⟩ :=
  rfl

@[simp] theorem step?_close (reader : Reader) (unquoted : reader.quoted = false) :
    step? reader ')' = reader.close? := by
  simp [step?, unquoted]

/-- In quotes only a quote has a meaning. -/
theorem step?_quoted {character : Char} (other : character ≠ '\x27') :
    step? ⟨true, current, outer, found⟩ character =
      some ⟨true, character :: current, outer, found⟩ :=
  (if_neg other).trans (if_pos rfl)

end Reader

/-- Whether a character has no meaning for a reader. -/
def isInert (character : Char) : Bool :=
  !(['\x27', '(', ')'].contains character)

/-- Whether no character of a text has a meaning for a reader. -/
def IsInert (text : List Char) : Prop :=
  ∀ character ∈ text, isInert character = true

instance (text : List Char) : Decidable (IsInert text) :=
  decidable_of_iff (text.all isInert = true) (by rw [IsInert, List.all_eq_true])

/-- No character of a name has a meaning for a reader, and none is a blank. -/
theorem isInert_of_not_isMark {character : Char} (unmarked : Grammar.isMark character = false) :
    isInert character = true ∧ character ≠ ' ' := by
  simp only [isInert, List.contains_cons, List.contains_nil, Bool.or_false, Bool.not_eq_true',
    Bool.or_eq_false_iff, beq_eq_false_iff_ne]
  refine ⟨⟨?_, ?_, ?_⟩, ?_⟩ <;> rintro rfl <;> exact absurd unmarked (by decide)

namespace Reader

variable {current : List Char} {outer found : List (List Char)}

/-- A reader outside of quotes passes over an inert character. -/
theorem step?_inert {character : Char} (inert : isInert character = true) :
    step? ⟨false, current, outer, found⟩ character =
      some ⟨false, character :: current, outer, found⟩ := by
  have other : character ≠ '\x27' ∧ character ≠ '(' ∧ character ≠ ')' := by
    simpa [isInert] using inert
  simp [step?, other]

/-- A reader outside of quotes passes over an inert text. -/
theorem readAll?_inert {text : List Char} (inert : IsInert text) (current : List Char) :
    readAll? ⟨false, current, outer, found⟩ text =
      some ⟨false, text.reverse ++ current, outer, found⟩ := by
  induction text generalizing current with
  | nil => rfl
  | cons first rest ih =>
      rw [readAll?_cons, step?_inert (inert first List.mem_cons_self), Option.bind_some,
        ih fun character member => inert character (.tail first member)]
      simp

/-- The characters of a value are read in quotes. -/
theorem readAll?_quoted (value current : List Char) :
    readAll? ⟨true, current, outer, found⟩ (value.flatMap quotedCharacter) =
      some ⟨true, (value.flatMap quotedCharacter).reverse ++ current, outer, found⟩ := by
  induction value generalizing current with
  | nil => rfl
  | cons first rest ih =>
      rw [List.flatMap_cons, quotedCharacter]
      split
      · rw [List.cons_append, readAll?_cons, step?_quote, Option.bind_some, List.cons_append,
          readAll?_cons, step?_quote, Option.bind_some, List.nil_append]
        exact (ih _).trans (by simp)
      · rename_i other
        rw [List.cons_append, readAll?_cons, step?_quoted other, Option.bind_some,
          List.nil_append, ih]
        simp

end Reader

/-- No list begins behind a visible character. -/
theorem opensList_cons {character : Char} (visible : character ≠ ' ') (text : List Char) :
    opensList (character :: text) = false := by
  simp [opensList, List.isPrefixOf, Ne.symm visible]

/-- No list begins behind visible characters if none begins in front of them. -/
theorem opensList_reverse_append {text current : List Char}
    (visible : ∀ character ∈ text, character ≠ ' ') (unopened : opensList current = false) :
    opensList (text.reverse ++ current) = false := by
  cases reversed : text.reverse with
  | nil => exact unopened
  | cons last front =>
      have member : last ∈ text := List.mem_reverse.mp (reversed ▸ List.mem_cons_self)
      exact opensList_cons (visible last member) _

/-- No list begins behind parentheses. -/
theorem opensList_enclosed (text current : List Char) :
    opensList ((enclosed text).reverse ++ current) = false := by
  rw [enclosed, List.reverse_append]
  exact opensList_cons (by decide) _

namespace Passes

variable {text other : List Char} {lists others : List (List Char)}

theorem nil : Passes [] [] := by
  intro current outer found unopened
  exact ⟨by rw [List.append_nil]; rfl, unopened⟩

theorem append (passes : Passes text lists) (later : Passes other others) :
    Passes (text ++ other) (lists ++ others) := by
  intro current outer found unopened
  obtain ⟨read, behind⟩ := passes current outer found unopened
  obtain ⟨readOther, behindOther⟩ := later _ outer (found ++ lists) behind
  rw [Reader.readAll?_append, read, Option.bind_some, readOther]
  simpa using behindOther

/-- A text has its lists only. -/
theorem unique (passes : Passes text lists) (otherwise : Passes text others) : lists = others := by
  have read := (passes [] [] [] rfl).1
  rw [(otherwise [] [] [] rfl).1] at read
  simpa using read.symm

/-- Inert characters hold no list if they do not end with the keyword of one. -/
theorem of_inert (inert : IsInert text)
    (ends : ∀ current, opensList current = false → opensList (text.reverse ++ current) = false) :
    Passes text [] := by
  intro current outer found unopened
  rw [List.append_nil]
  exact ⟨Reader.readAll?_inert inert current, ends current unopened⟩

/-- There is no list in inert characters without blanks. -/
theorem of_visible (inert : ∀ character ∈ text, isInert character = true ∧ character ≠ ' ') :
    Passes text [] :=
  of_inert (fun character member => (inert character member).1) fun _ =>
    opensList_reverse_append fun character member => (inert character member).2

/-- Parentheses around a text are balanced. They hold a list behind its keyword. -/
theorem readAll?_enclosed (passes : Passes text lists) (current : List Char)
    (outer found : List (List Char)) :
    Reader.readAll? ⟨false, current, outer, found⟩ (Ogc.enclosed text) =
      some ⟨false, (Ogc.enclosed text).reverse ++ current, outer,
        found ++ lists ++ if opensList current then [text] else []⟩ := by
  have inside := (passes [] (current :: outer) found rfl).1
  rw [Ogc.enclosed, List.cons_append, Reader.readAll?_cons, Reader.step?_open, Option.bind_some,
    Reader.readAll?_append, inside, Option.bind_some, Reader.readAll?_cons,
    Reader.step?_close _ rfl, Reader.close?]
  simp

/-- Parentheses in which a text stands hold its lists, if they are no list themselves. -/
theorem enclosed (passes : Passes text lists) : Passes (enclosed text) lists := by
  intro current outer found unopened
  rw [passes.readAll?_enclosed, unopened]
  exact ⟨by simp, opensList_enclosed text current⟩

/-- Parentheses behind the keyword are a list, if the text between them holds none. -/
theorem list (passes : Passes text []) : Passes (" IN ".toList ++ Ogc.enclosed text) [text] := by
  intro current outer found _
  have keyword : Reader.readAll? ⟨false, current, outer, found⟩ " IN ".toList =
      some ⟨false, " IN ".toList.reverse ++ current, outer, found⟩ :=
    rfl
  have behind : opensList (" IN ".toList.reverse ++ current) = true := rfl
  rw [Reader.readAll?_append, keyword, Option.bind_some, passes.readAll?_enclosed, behind,
    List.reverse_append, List.append_assoc]
  exact ⟨by simp, by simpa using opensList_enclosed text (" IN ".toList.reverse ++ current)⟩

end Passes

/-- A text has lists exactly if a reader ends outside of quotes and parentheses, with these lists.
-/
theorem listsIn?_eq_some {text : List Char} {lists : List (List Char)} :
    listsIn? text = some lists ↔ ∃ last, Reader.start.readAll? text = some last ∧
      (last.quoted = false ∧ last.outer = []) ∧ last.lists = lists := by
  simp [listsIn?, Option.map_eq_some_iff, Option.filter_eq_some_iff, and_assoc]

/-- A text that a reader goes through is balanced. -/
theorem Passes.listsIn?_eq {text : List Char} {lists : List (List Char)}
    (passes : Passes text lists) : listsIn? text = some lists :=
  listsIn?_eq_some.mpr ⟨_, (passes [] [] [] rfl).1, ⟨rfl, rfl⟩, rfl⟩

/-- A parenthesis that opened no list is closed without one. -/
theorem Reader.close?_unopened {current level : List Char} {outer found : List (List Char)}
    (unopened : opensList level = false) : close? ⟨false, current, level :: outer, found⟩ =
      some ⟨false, ')' :: current ++ '(' :: level, outer, found⟩ := by
  simp [close?, unopened]

/-- A reader that goes through a text without blanks and quotes does so inside of any parentheses:
those of the text are balanced, and none of them opens a list. -/
theorem Reader.readAll?_levels {value : List Char}
    (bare : ∀ character ∈ value, character ≠ '\x27' ∧ character ≠ ' ') {reader last : Reader}
    (unquoted : reader.quoted = false) (read : reader.readAll? value = some last)
    (closed : last.outer = []) {current : List Char} {levels : List (List Char)}
    (same : levels.length = reader.outer.length)
    (unopened : ∀ level ∈ current :: levels, opensList level = false)
    (outer found : List (List Char)) :
    readAll? ⟨false, current, levels ++ outer, found⟩ value =
      some ⟨false, value.reverse ++ current ++ levels.flatMap ('(' :: ·), outer, found⟩ := by
  -- The induction is over readers with as many open parentheses as there are levels. As the value
  -- has no blanks, no keyword is behind any of them.
  induction value generalizing reader current levels with
  | nil =>
      cases read
      rw [closed] at same
      rw [List.eq_nil_of_length_eq_zero same]
      simp
  | cons first rest ih =>
      obtain ⟨plain, visible⟩ := bare first List.mem_cons_self
      have others : ∀ character ∈ rest, character ≠ '\x27' ∧ character ≠ ' ' :=
        fun character member => bare character (.tail first member)
      obtain ⟨_, text, around, lists⟩ := reader
      cases unquoted
      rw [readAll?_cons] at read ⊢
      by_cases opens : first = '('
      · subst opens
        rw [step?_open, Option.bind_some] at read ⊢
        have inner : ∀ level ∈ [] :: current :: levels, opensList level = false :=
          List.forall_mem_cons.mpr ⟨rfl, unopened⟩
        have deeper : (current :: levels).length = (text :: around).length :=
          congrArg (· + 1) same
        exact (ih others rfl read deeper inner).trans (by simp)
      · by_cases closes : first = ')'
        · subst closes
          rw [step?_close _ rfl] at read ⊢
          cases around with
          | nil => simp [close?] at read
          | cons front around =>
              obtain ⟨level, levels, rfl⟩ := List.exists_cons_of_length_eq_add_one same
              obtain ⟨_, levelUnopened, levelsUnopened⟩ :
                  opensList current = false ∧ opensList level = false ∧
                    ∀ level ∈ levels, opensList level = false := by
                simpa using unopened
              have joined : ∀ inner ∈ (')' :: current ++ '(' :: level) :: levels,
                  opensList inner = false :=
                List.forall_mem_cons.mpr ⟨opensList_cons (by decide) _, levelsUnopened⟩
              rw [List.cons_append, close?_unopened levelUnopened]
              exact (ih others rfl read (by simpa using same) joined).trans (by simp)
        · have inert : isInert first = true := by
            simp [isInert, plain, opens, closes]
          rw [step?_inert inert, Option.bind_some] at read ⊢
          have longer : ∀ level ∈ (first :: current) :: levels, opensList level = false :=
            List.forall_mem_cons.mpr
              ⟨opensList_cons visible current, (List.forall_mem_cons.mp unopened).2⟩
          exact (ih others rfl read same longer).trans (by simp)

namespace Passes

/-- There is no list in a quoted value. -/
theorem quoted (value : List Char) : Passes (quoted value) [] := by
  intro current outer found _
  rw [List.append_nil]
  constructor
  · rw [Ogc.quoted, List.cons_append, Reader.readAll?_cons, Reader.step?_quote, Option.bind_some,
      Reader.readAll?_append, Bool.not_false, Reader.readAll?_quoted, Option.bind_some,
      Reader.readAll?_cons, Reader.step?_quote]
    simp
  · rw [Ogc.quoted, List.reverse_append]
    exact opensList_cons (by decide) _

/-- A value that is written as it is has no blanks, so that what stands in its parentheses is no
list. -/
theorem word {value : List Char} (bare : needsQuotes value = false)
    (balanced : (listsIn? value).isSome = true) : Passes value [] := by
  have plain := needsQuotes_eq_false bare
  obtain ⟨lists, found⟩ := Option.isSome_iff_exists.mp balanced
  obtain ⟨last, read, ⟨_, closed⟩, _⟩ := listsIn?_eq_some.mp found
  intro current outer found unopened
  have alone : ∀ level ∈ [current], opensList level = false :=
    List.forall_mem_singleton.mpr unopened
  have passed := Reader.readAll?_levels plain rfl read closed rfl alone outer found
  refine ⟨?_, opensList_reverse_append (fun character member => (plain character member).2)
    unopened⟩
  simpa [Reader.start] using passed

/-- There is no list in a literal, if its value is contained. -/
theorem literal {value : String} (contained : IsContained value) : Passes (literal value) [] := by
  rw [literal_eq]
  rcases contained with quotes | balanced
  · rw [if_pos quotes]
    exact quoted value.toList
  · split
    · exact quoted value.toList
    · rename_i bare
      exact word (by simpa using bare) balanced

/-- There is no list in literals with commas between them. -/
theorem literals {values : List String} (contained : ∀ value ∈ values, IsContained value) :
    Passes (literals values) [] := by
  have written : ReadsAll Passes (values.map Ogc.literal) (values.flatMap fun _ => []) :=
    .of_forall fun value member => literal (contained value member)
  rw [List.flatMap_eq_nil_iff.mpr fun _ _ => rfl] at written
  have comma : Passes [',', ' '] [] :=
    of_inert (by decide) fun _ _ => rfl
  refine written.intercalate nil fun first second => ?_
  have joined := (first.append comma).append second
  rwa [List.append_nil] at joined

/-- The lists of texts with a connective between them are those of both. -/
theorem separated (connective : Connective) {text other : List Char}
    {lists others : List (List Char)} (passes : Passes text lists) (later : Passes other others) :
    Passes (text ++ separator connective ++ other) (lists ++ others) := by
  have between : Passes (separator connective) [] :=
    of_inert (by cases connective <;> decide) fun _ _ => by cases connective <;> rfl
  have joined := (passes.append between).append later
  rwa [List.append_nil] at joined

/-- A joined list has the lists of its texts. -/
theorem joined (connective : Connective) {texts lists : List (List Char)}
    (written : ReadsAll Passes texts lists) :
    Passes ((separator connective).intercalate texts) lists :=
  written.intercalate nil (separated connective)

theorem numeral (number : Int) : Passes (Numeral.ofInt number) [] := by
  have digits : ∀ character ∈ Numeral.digits number.natAbs,
      isInert character = true ∧ character ≠ ' ' :=
    fun _ member => isInert_of_not_isMark (Numeral.isMark_of_mem_digits member)
  rw [Numeral.ofInt]
  split
  · exact of_visible (List.forall_mem_cons.mpr ⟨by decide, digits⟩)
  · exact of_visible digits

end Passes

section Tests

variable {field : String} (named : Grammar.IsName field.toList)

include named

theorem passes_name : Passes field.toList [] :=
  .of_visible fun character member => isInert_of_not_isMark (named.2 character member)

theorem passes_comparison {value : String} (contained : IsContained value) :
    Passes (comparison field value) [] := by
  have equal : Passes ['='] [] := .of_inert (by decide) fun _ _ => rfl
  have compared := ((passes_name named).append equal).append (.literal contained)
  simpa [comparison] using compared

theorem passes_requirement {values : List String}
    (contained : ∀ value ∈ values, IsContained value) :
    Passes (testText?.requirement field values) [] := by
  have compared : ReadsAll Passes (values.map (comparison field)) (values.flatMap fun _ => []) :=
    .of_forall fun value member => passes_comparison named (contained value member)
  rw [List.flatMap_eq_nil_iff.mpr fun _ _ => rfl] at compared
  unfold testText?.requirement
  split
  · exact passes_comparison named (contained _ List.mem_cons_self)
  · exact (Passes.joined .and compared).enclosed

/-- Behind a field and a keyword that ends with `IN` the values are a list. -/
theorem passes_membership {values : List String} (contained : ∀ value ∈ values, IsContained value) :
    Passes (membership field "IN" values) [literals values] ∧
      Passes (membership field "NOT IN" values) [literals values] := by
  have list := Passes.list (.literals contained)
  have negation : Passes " NOT".toList [] :=
    .of_inert (by decide) fun _ _ => rfl
  constructor
  · simpa [membership] using (passes_name named).append list
  · simpa [membership] using ((passes_name named).append negation).append list

/-- A test has the lists that it writes. -/
theorem passes_test {test : FieldTest} (contained : ∀ value ∈ test.texts, IsContained value)
    {text : List Char} (written : testText? field test = some text) :
    Passes text ((listed test).map literals) := by
  cases test with
  | freeText => exact absurd written.symm (Option.some_ne_none text)
  | equals value =>
      cases written
      exact passes_comparison named (contained value List.mem_cons_self)
  | anyOf values =>
      rcases values with _ | ⟨value, _ | ⟨second, rest⟩⟩
      · cases written
        exact (passes_membership named contained).1
      · cases written
        exact passes_comparison named (contained value List.mem_cons_self)
      · cases written
        exact (passes_membership named contained).1
  | allOf values =>
      cases written
      exact passes_requirement named contained
  | exact values =>
      cases written
      exact passes_requirement named contained
  | noneOf values =>
      cases written
      exact (passes_membership named contained).2
  | between range =>
      cases written
      have keyword : Passes " BETWEEN ".toList [] :=
        .of_inert (by decide) fun _ _ => rfl
      have low := ((passes_name named).append keyword).append (.numeral range.earliest.toInt)
      exact low.separated .and (.numeral range.latest.toInt)
  | flag value =>
      cases written
      have text : Passes ('=' :: (if value then "true" else "false").toList) [] :=
        .of_inert (by cases value <;> decide) fun _ _ => by cases value <;> rfl
      exact (passes_name named).append text

end Tests

/-- A test without a text writes no list. -/
theorem listed_eq_nil {field : String} {test : FieldTest} (silent : testText? field test = none) :
    listed test = [] := by
  cases test with
  | freeText => rfl
  | anyOf values => rcases values with _ | ⟨value, _ | ⟨second, rest⟩⟩ <;> cases silent
  | _ => cases silent

/-- Whether the field of a test has a name, and each value of the test can be told from the
parentheses around it. -/
structure IsListable (field : String) (test : FieldTest) : Prop where
  named : Grammar.IsName field.toList
  wellFormed : test.WellFormed
  contained : ∀ value ∈ test.texts, IsContained value

/-- A clause has the lists of its tests, also if none of them has a text. -/
theorem passes_clause {clause : Clause} (listable : clause.ConsistsOf IsListable) :
    (∀ text, clauseText? clause = some text →
        Passes text ((clause.tests.flatMap listed).map literals)) ∧
      (clauseText? clause = none → (clause.tests.flatMap listed).map literals = []) := by
  have written : ReadsAll Passes (clause.tests.filterMap (testText? clause.field))
      (clause.tests.flatMap fun test => (listed test).map literals) := by
    refine .of_filterMap (fun test member text written => ?_) fun test _ silent => ?_
    · exact passes_test (listable.2 test member).named (listable.2 test member).contained written
    · rw [listed_eq_nil silent, List.map_nil]
  rw [← List.map_flatMap] at written
  unfold clauseText?
  generalize clause.tests.filterMap (testText? clause.field) = texts at written
  generalize (clause.tests.flatMap listed).map literals = lists at written
  rcases texts with _ | ⟨first, _ | ⟨second, rest⟩⟩
  · cases written
    exact ⟨fun _ some => absurd some (Option.some_ne_none _).symm, fun _ => rfl⟩
  · refine ⟨fun text some => ?_, fun none => absurd none (Option.some_ne_none _)⟩
    cases some
    have alone := Passes.joined .and written
    rwa [List.intercalate_singleton] at alone
  · refine ⟨fun text some => ?_, fun none => absurd none (Option.some_ne_none _)⟩
    cases some
    exact (Passes.joined .and written).enclosed

/-- The lists of a conjunction are those that its tests write. -/
theorem passes_conjunction {conjunction : Conjunction}
    (listable : conjunction.ConsistsOf IsListable) : Passes (conjunctionText conjunction)
      ((conjunction.clauses.flatMap fun clause => clause.tests.flatMap listed).map literals) := by
  rw [List.map_flatMap]
  refine .joined .and (.of_filterMap (fun clause member => ?_) fun clause member => ?_)
  · exact (passes_clause (listable.2 clause member)).1
  · exact (passes_clause (listable.2 clause member)).2

/-- The lists of a group are those that its tests write. -/
theorem passes_group {group : CriteriaGroup} (listable : group.ConsistsOf IsListable) :
    Passes (groupText group) ((group.conjunctions.flatMap fun conjunction =>
      conjunction.clauses.flatMap fun clause => clause.tests.flatMap listed).map literals) := by
  rw [List.map_flatMap]
  have written : ReadsAll Passes (group.conjunctions.map conjunctionText) _ :=
    .of_forall fun conjunction member => passes_conjunction (listable.2 conjunction member)
  have kept : ReadsAll Passes ((group.conjunctions.map conjunctionText).filter
      fun text => !text.isEmpty) _ := written.filter fun {text} _ blank passes => by
    have empty : text = [] := by simpa using blank
    exact passes.unique (empty ▸ .nil)
  exact (Passes.joined _ (kept.map Passes.enclosed)).enclosed

/-- The lists of an expression are those that the tests of the criteria write. -/
theorem passes_expressionOf {criteria : Criteria}
    (listable : ∀ group ∈ criteria.groups, group.ConsistsOf IsListable) :
    Passes (expressionOf criteria).toList ((listedValues criteria).map literals) := by
  rw [listedValues, List.map_flatMap, expressionOf, String.toList_ofList]
  have written : ReadsAll Passes (criteria.groups.map groupText) _ :=
    .of_forall fun group member => passes_group (listable group member)
  refine .joined .and (written.filter fun {text} _ blank passes => ?_)
  have empty : text = enclosed [] := by simpa using blank
  exact passes.unique (empty ▸ Passes.nil.enclosed)

/-- No test writes an empty list. -/
theorem listed_ne_nil {test : FieldTest} (wellFormed : test.WellFormed) :
    ∀ values ∈ listed test, values ≠ [] := by
  intro values member
  cases test with
  | anyOf texts =>
      rcases texts with _ | ⟨first, _ | ⟨second, rest⟩⟩
      · exact absurd rfl wellFormed
      · exact absurd member List.not_mem_nil
      · rw [List.mem_singleton.mp member]
        exact List.cons_ne_nil _ _
  | noneOf texts =>
      rw [List.mem_singleton.mp member]
      exact wellFormed
  | _ => exact absurd member List.not_mem_nil

/-- The fields of the criteria of a query have names if those of the query do. -/
theorem named_criteria {now : Instant} {policy : FieldPolicy} {query : Query}
    (named : ∀ predicate ∈ query.predicates, ∀ field ∈ predicate.fields,
      Grammar.IsName field.toList) :
    (query.criteria now policy).EveryTest fun field _ => Grammar.IsName field.toList := by
  refine Query.everyTest_criteria fun filter filterMember predicate predicateMember entry
    entryMember _ _ _ => ?_
  have constrained : entry.1 ∈ predicate.fields := List.mem_map.mpr ⟨entry, entryMember, rfl⟩
  have member : predicate ∈ (query.expand now).predicates :=
    List.mem_flatMap.mpr ⟨filter, filterMember, predicateMember⟩
  rcases Query.mem_fields_expand member constrained with ⟨original, given, own, _⟩ | ⟨_, brought⟩
  · exact named original given entry.1 own
  · rcases brought with same | same <;> rw [same] <;> decide

/-- **Values keep their places, but for commas.** If the fields of a query have names and the
parentheses of each value that is written without quotes are balanced, then the parentheses of its
expression are balanced, and it has one list for every test that writes one, in order. The values of
a list are those of the test if and only if none that is written without quotes contains a comma. -/
theorem listValues_expression_iff {settings : OgcSettings} {now : Instant} {query : Query}
    (named : ∀ predicate ∈ query.predicates, ∀ field ∈ predicate.fields,
      Grammar.IsName field.toList)
    (contained : (query.criteria now settings.includes).EveryTest fun _ test =>
      ∀ value ∈ test.texts, IsContained value) :
    ∃ lists, listsIn? (expression settings now query).toList = some lists ∧
      List.Forall₂ (fun list values => listValues list = values ↔
          ∀ value ∈ values, needsQuotes value.toList = true ∨ ',' ∉ value.toList)
        lists (listedValues (query.criteria now settings.includes)) := by
  have every : (query.criteria now settings.includes).EveryTest IsListable :=
    ((named_criteria named).and (query.wellFormed_criteria.and contained)).imp
      fun ⟨named, wellFormed, contained⟩ => ⟨named, wellFormed, contained⟩
  have passes := passes_expressionOf (Query.consistsOf_criteria every)
  refine ⟨_, passes.listsIn?_eq, ?_⟩
  rw [List.forall₂_map_left_iff, List.forall₂_same]
  intro values member
  refine listValues_literals_iff ?_
  simp only [listedValues, List.mem_flatMap] at member
  obtain ⟨group, groupMember, conjunction, conjunctionMember, clause, clauseMember, test,
    testMember, member⟩ := member
  exact listed_ne_nil (every group groupMember conjunction conjunctionMember clause clauseMember
    test testMember).wellFormed values member

/-- A list with a comma and a parenthesis in quotes, an empty value and one with parentheses. -/
theorem listValues_expression_iff_quoted :
    let settings : OgcSettings := .initial
    let query : Query := ⟨.item, [⟨.and, [.ofEntries
      [("tags", .list ["a, b", "it's (", "", "f(x)"]), ("owner", .text "casey")]]⟩]⟩
    expression settings .epoch query =
        "((tags IN ('a, b', 'it''s (', , f(x)) AND owner=casey))" ∧
      ∃ list, listsIn? (expression settings .epoch query).toList = some [list] ∧
        listValues list = ["a, b", "it's (", "", "f(x)"] := by
  intro settings query
  have named : ∀ predicate ∈ query.predicates, ∀ field ∈ predicate.fields,
      Grammar.IsName field.toList := by
    decide
  have contained : (query.criteria .epoch settings.includes).EveryTest fun _ test =>
      ∀ value ∈ test.texts, IsContained value := by
    unfold Criteria.EveryTest
    decide
  obtain ⟨lists, read, same⟩ := listValues_expression_iff named contained
  have written : listedValues (query.criteria .epoch settings.includes) =
      [["a, b", "it's (", "", "f(x)"]] := by
    decide
  rw [written] at same
  obtain ⟨list, rest, first, others, rfl⟩ := List.forall₂_cons_right_iff.mp same
  rw [List.forall₂_nil_right_iff.mp others] at read
  exact ⟨by decide, list, read, first.mpr (by decide)⟩

/-- A comma in a value that is written without quotes divides it, and a parenthesis there ends the
list: the lists of an expression are not always those of the tests. -/
theorem lists_divided :
    (¬ ∀ (settings : OgcSettings) (query : Query) (now : Instant), query.WithoutFreeText →
      (∀ predicate ∈ query.predicates, ∀ field ∈ predicate.fields,
        Grammar.IsName field.toList) →
          (listsIn? (expression settings now query).toList).map (List.map listValues) =
            some (listedValues (query.criteria now settings.includes))) ∧
      listsIn? (expression .initial .epoch
        ⟨.item, [⟨.and, [.ofEntries [("tags", .list ["a)", "c"])]]⟩]⟩).toList = none := by
  refine ⟨fun read => ?_, by decide⟩
  let query : Query := ⟨.item, [⟨.and, [.ofEntries [("tags", .list ["a,b", "c"])]]⟩]⟩
  have evaluable : query.WithoutFreeText := by
    unfold Query.WithoutFreeText
    decide
  have named : ∀ predicate ∈ query.predicates, ∀ field ∈ predicate.fields,
      Grammar.IsName field.toList := by
    decide
  have divided : (listsIn? (expression .initial .epoch query).toList).map (List.map listValues) =
      some [["a", "b", "c"]] := by
    decide
  exact absurd (divided.symm.trans (read .initial query .epoch evaluable named)) (by decide)

end Ogc

end CatalogSearch
