import CatalogSearch.Proofs.Criteria.WellFormed
import CatalogSearch.Proofs.Portal.Grammar
import CatalogSearch.Proofs.Syntax.Contents

/-!
# Phrases of portal searches

A reader of a search text goes from left to right: a quote opens a phrase, a backslash in a phrase
takes the next character as it is, and any other quote closes the phrase. It reads the values of a
search exactly if none of them contains a backslash, which is written as it is
(`PortalSearch.read_ofQuery_iff`).
-/

namespace CatalogSearch

namespace Portal

/-- Where a reader of a search text is: outside of phrases, in one of which it has read some
characters, or behind a backslash there. -/
inductive Place where
  | outside
  | within (characters : List Char)
  | escaped (characters : List Char)
deriving DecidableEq

/-- A reader of a search text, with the phrases that it has read. -/
structure Reader where
  place : Place
  phrases : List String
deriving DecidableEq

namespace Reader

/-- The reader in front of a search text. -/
def start : Reader :=
  ⟨.outside, []⟩

/-- The reader behind a character. -/
def step (reader : Reader) (character : Char) : Reader :=
  match reader.place with
  | .outside => if character = '"' then ⟨.within [], reader.phrases⟩ else reader
  | .within characters =>
      if character = '"' then ⟨.outside, reader.phrases ++ [String.ofList characters]⟩
      else if character = '\\' then ⟨.escaped characters, reader.phrases⟩
      else ⟨.within (characters ++ [character]), reader.phrases⟩
  | .escaped characters => ⟨.within (characters ++ [character]), reader.phrases⟩

/-- The reader behind a text. -/
def readAll (reader : Reader) (text : List Char) : Reader :=
  text.foldl step reader

/-- What is read in a part of a search. There is nothing in a part that is absent. -/
def readPart (part : Option String) : Reader :=
  start.readAll (part.getD "").toList

end Reader

/-- The values that a test writes into the search text where it stands. Required values stand at the
first test that asks for some. -/
def ownTexts : FieldTest → List String
  | .equals value => [value]
  | .anyOf values => values
  | .noneOf values => values
  | _ => []

/-- The values of tests in the search text, in the order in which they stand there. -/
def keptValues (apart : Bool) (required : List String) : List FieldTest → List String
  | [] => []
  | test :: rest =>
      if asksRequired apart test then required ++ rest.flatMap ownTexts
      else ownTexts test ++ keptValues apart required rest

/-- The values of a test in the text of the values that are sent apart. -/
def sentTexts (apart : Bool) : FieldTest → List String
  | .exact values => if apart then values else []
  | _ => []

/-- Whether the exact values of a clause are sent apart from the search text. -/
def sendsApart (settings : PortalSettings) (group : CriteriaGroup) (clause : Clause) : Bool :=
  (group.connective = .and || group.conjunctions.length == 1) && settings.isFilterable clause.field

/-- The values in the search text of criteria. -/
def queryValues (settings : PortalSettings) (criteria : Criteria) : List String :=
  criteria.groups.flatMap fun group => group.conjunctions.flatMap fun conjunction =>
    conjunction.clauses.flatMap fun clause =>
      let apart := sendsApart settings group clause
      keptValues apart ((clause.tests.filter (asksRequired apart)).flatMap FieldTest.texts)
        clause.tests

/-- The values of criteria that are sent apart. -/
def exactValues (settings : PortalSettings) (criteria : Criteria) : List String :=
  criteria.groups.flatMap fun group => group.conjunctions.flatMap fun conjunction =>
    conjunction.clauses.flatMap fun clause =>
      clause.tests.flatMap (sentTexts (sendsApart settings group clause))

/-- The phrases of some values, with plain characters before, between and behind them. -/
inductive Spells : List Char → List String → Prop where
  | plain {text : List Char} (plain : IsPlain text) : Spells text []
  | phrase {front rest : List Char} {value : String} {values : List String} (plain : IsPlain front)
      (others : Spells rest values) : Spells (front ++ phrase value ++ rest) (value :: values)

/-- A phrase is its value between quotes, with the quotes in it escaped. -/
theorem phrase_eq (value : String) :
    phrase value = '"' :: (value.toList.flatMap phraseCharacter ++ ['"']) :=
  List.cons_append

theorem IsPlain.append {first second : List Char} (plain : IsPlain first)
    (otherPlain : IsPlain second) : IsPlain (first ++ second) :=
  List.forall_mem_append.mpr ⟨plain, otherPlain⟩

namespace Spells

theorem append {text other : List Char} {values others : List String}
    (spelled : Spells text values) (otherSpelled : Spells other others) :
    Spells (text ++ other) (values ++ others) := by
  induction spelled with
  | plain plain =>
      cases otherSpelled with
      | plain otherPlain => exact .plain (plain.append otherPlain)
      | phrase otherPlain rest =>
          rw [← List.append_assoc, ← List.append_assoc]
          exact .phrase (plain.append otherPlain) rest
  | phrase plain _ ih =>
      rw [List.append_assoc]
      exact .phrase plain ih

/-- Texts with a connective between them spell the phrases of both. -/
theorem separated (connective : Connective) {text other : List Char} {values others : List String}
    (spelled : Spells text values) (otherSpelled : Spells other others) :
    Spells (text ++ separator connective ++ other) (values ++ others) := by
  have between : IsPlain (separator connective) := by
    cases connective <;> decide
  have joined := (spelled.append (.plain between)).append otherSpelled
  rwa [List.append_nil] at joined

theorem nil : Spells [] [] :=
  .plain fun _ member => absurd member List.not_mem_nil

theorem eq_nil {text : List Char} {values : List String} (spelled : Spells text values)
    (blank : text = []) : values = [] := by
  cases spelled with
  | plain => rfl
  | phrase => simp [phrase_eq] at blank

end Spells

namespace Reader

section Steps

variable {phrases : List String} {characters : List Char}

@[simp] theorem readAll_nil (reader : Reader) : reader.readAll [] = reader :=
  rfl

@[simp] theorem readAll_cons (reader : Reader) (first : Char) (rest : List Char) :
    reader.readAll (first :: rest) = (reader.step first).readAll rest :=
  rfl

theorem readAll_append (reader : Reader) (first second : List Char) :
    reader.readAll (first ++ second) = (reader.readAll first).readAll second :=
  List.foldl_append

@[simp] theorem step_outside_quote : step ⟨.outside, phrases⟩ '"' = ⟨.within [], phrases⟩ :=
  rfl

theorem step_outside {character : Char} (plain : character ≠ '"') :
    step ⟨.outside, phrases⟩ character = ⟨.outside, phrases⟩ :=
  if_neg plain

@[simp] theorem step_within_quote : step ⟨.within characters, phrases⟩ '"' =
    ⟨.outside, phrases ++ [String.ofList characters]⟩ :=
  rfl

@[simp] theorem step_within_backslash : step ⟨.within characters, phrases⟩ '\\' =
    ⟨.escaped characters, phrases⟩ :=
  rfl

theorem step_within {character : Char} (unquoted : character ≠ '"') (other : character ≠ '\\') :
    step ⟨.within characters, phrases⟩ character = ⟨.within (characters ++ [character]), phrases⟩ :=
  (if_neg unquoted).trans (if_neg other)

@[simp] theorem step_escaped (character : Char) : step ⟨.escaped characters, phrases⟩ character =
    ⟨.within (characters ++ [character]), phrases⟩ :=
  rfl

end Steps

variable {phrases : List String}

/-- Outside of phrases only a quote has a meaning. -/
theorem readAll_outside {text : List Char} (plain : IsPlain text) :
    readAll ⟨.outside, phrases⟩ text = ⟨.outside, phrases⟩ := by
  induction text with
  | nil => rfl
  | cons first rest ih =>
      have unquoted : first ≠ '"' := by
        rintro rfl
        exact absurd (plain '"' List.mem_cons_self) (by decide)
      rw [readAll_cons, step_outside unquoted]
      exact ih fun character member => plain character (.tail first member)

theorem flatMap_phraseCharacter_quote (value : List Char) :
    ('"' :: value).flatMap phraseCharacter = '\\' :: '"' :: value.flatMap phraseCharacter :=
  rfl

theorem flatMap_phraseCharacter_cons {first : Char} (unquoted : first ≠ '"') (value : List Char) :
    (first :: value).flatMap phraseCharacter = first :: value.flatMap phraseCharacter := by
  rw [List.flatMap_cons, phraseCharacter, if_neg unquoted]
  rfl

/-- The characters of a value without backslashes are read back in a phrase. -/
theorem readAll_within {value : List Char} (unescaped : '\\' ∉ value) (characters : List Char) :
    readAll ⟨.within characters, phrases⟩ (value.flatMap phraseCharacter) =
      ⟨.within (characters ++ value), phrases⟩ := by
  induction value generalizing characters with
  | nil => simp
  | cons first rest ih =>
      have ⟨other, later⟩ := not_or.mp fun member => unescaped (List.mem_cons.mpr member)
      have longer := ih later (characters ++ [first])
      rw [List.append_assoc, List.singleton_append] at longer
      by_cases quote : first = '"'
      · subst quote
        rw [flatMap_phraseCharacter_quote, readAll_cons, step_within_backslash, readAll_cons,
          step_escaped, longer]
      · rw [flatMap_phraseCharacter_cons quote, readAll_cons, step_within quote (Ne.symm other),
          longer]

/-- A value without backslashes is read back from its phrase. -/
theorem readAll_phrase {value : String} (unescaped : '\\' ∉ value.toList) :
    readAll ⟨.outside, phrases⟩ (phrase value) = ⟨.outside, phrases ++ [value]⟩ := by
  rw [phrase_eq, readAll_cons, step_outside_quote, readAll_append, readAll_within unescaped,
    List.nil_append, readAll_cons, step_within_quote, readAll_nil, String.ofList_toList]

/-- Phrases that have been read stay. -/
theorem exists_phrases_readAll (reader : Reader) (text : List Char) :
    ∃ more, (reader.readAll text).phrases = reader.phrases ++ more := by
  induction text generalizing reader with
  | nil => exact ⟨[], (List.append_nil _).symm⟩
  | cons first rest ih =>
      obtain ⟨more, later⟩ := ih (reader.step first)
      have now : ∃ one, (reader.step first).phrases = reader.phrases ++ one := by
        unfold step
        split
        · split <;> exact ⟨[], (List.append_nil _).symm⟩
        · split
          · exact ⟨_, rfl⟩
          · split <;> exact ⟨[], (List.append_nil _).symm⟩
        · exact ⟨[], (List.append_nil _).symm⟩
      obtain ⟨one, now⟩ := now
      exact ⟨one ++ more, by rw [readAll_cons, later, now, List.append_assoc]⟩

/-- The next phrase is the one that has just been closed. -/
theorem eq_of_readAll_closed {place : Place} {text : List Char} {closed next : String}
    {more : List String} (read : (readAll ⟨place, phrases ++ [closed]⟩ text).phrases =
      phrases ++ next :: more) : next = closed := by
  obtain ⟨others, kept⟩ := exists_phrases_readAll ⟨place, phrases ++ [closed]⟩ text
  rw [read, List.append_assoc] at kept
  exact (List.cons.inj (List.append_cancel_left kept)).1

/-- The next phrase begins with the characters that have been read in it. -/
theorem prefix_of_readAll {place : Place} {characters : List Char}
    (inside : place = .within characters ∨ place = .escaped characters) {text : List Char}
    {next : String} {more : List String}
    (read : (readAll ⟨place, phrases⟩ text).phrases = phrases ++ next :: more) :
    characters <+: next.toList := by
  induction text generalizing place characters with
  | nil => simp at read
  | cons first rest ih =>
      rw [readAll_cons] at read
      have longer (read : (readAll ⟨.within (characters ++ [first]), phrases⟩ rest).phrases =
          phrases ++ next :: more) : characters <+: next.toList :=
        (List.prefix_append characters [first]).trans (ih (.inl rfl) read)
      rcases inside with rfl | rfl
      · by_cases quote : first = '"'
        · subst quote
          rw [step_within_quote] at read
          have same : next.toList = characters := by
            rw [eq_of_readAll_closed read, String.toList_ofList]
          exact same ▸ List.prefix_rfl
        · by_cases backslash : first = '\\'
          · subst backslash
            exact ih (.inr rfl) read
          · rw [step_within quote backslash] at read
            exact longer read
      · exact longer read

section Backslashes

variable {value : String} {characters : List Char} {count : Nat} {tail : List Char}
  {more : List String}
  (same : value.toList = characters ++ List.replicate (count + 1) '\\' ++ tail)

include same

/-- A value that goes on with a backslash is read back only from a backslash. -/
theorem eq_backslash_of_readAll {character : Char} {text : List Char}
    (read : (readAll ⟨.within (characters ++ [character]), phrases⟩ text).phrases =
      phrases ++ value :: more) : character = '\\' := by
  have begins := prefix_of_readAll (.inl rfl) read
  rw [same, List.append_assoc, List.prefix_append_right_inj, List.replicate_succ,
    List.cons_append, List.cons_prefix_cons] at begins
  exact begins.1

/-- A run of backslashes in a value is not read back, whatever follows the value: every second one
is lost, and the last may take the next character with it. -/
theorem phrases_readAll_ne {place : Place}
    (inside : place = .within characters ∨ place = .escaped characters) (rest : List Char) :
    (readAll ⟨place, phrases⟩ (tail.flatMap phraseCharacter ++ '"' :: rest)).phrases ≠
      phrases ++ value :: more := by
  intro read
  induction tail generalizing place characters count with
  | nil =>
      rw [List.flatMap_nil, List.nil_append, readAll_cons] at read
      rcases inside with rfl | rfl
      · -- The phrase ends before the backslashes.
        rw [eq_of_readAll_closed read, String.toList_ofList] at same
        have length := congrArg List.length same
        simp at length
      · exact absurd (eq_backslash_of_readAll same read) (by decide)
  | cons first tail ih =>
      by_cases quote : first = '"'
      · subst quote
        rw [flatMap_phraseCharacter_quote, List.cons_append, readAll_cons, List.cons_append,
          readAll_cons] at read
        rcases inside with rfl | rfl
        · exact absurd (eq_backslash_of_readAll same read) (by decide)
        · -- The backslash before the quote is taken as it is, and the quote closes the phrase.
          rw [step_escaped, step_within_quote] at read
          rw [eq_of_readAll_closed read, String.toList_ofList] at same
          have length := congrArg List.length same
          simp at length
          omega
      · rw [flatMap_phraseCharacter_cons quote, List.cons_append, readAll_cons] at read
        by_cases backslash : first = '\\'
        · subst backslash
          have run : List.replicate (count + 1) '\\' ++ '\\' :: tail =
              List.replicate (count + 1 + 1) '\\' ++ tail := by
            rw [List.replicate_succ' (n := count + 1), List.append_assoc, List.singleton_append]
          rw [List.append_assoc, run] at same
          rcases inside with rfl | rfl
          · rw [← List.append_assoc] at same
            exact ih same (.inr rfl) read
          · have shifted : value.toList =
                characters ++ ['\\'] ++ List.replicate (count + 1) '\\' ++ tail := by
              rw [same, List.replicate_succ]
              simp
            exact ih shifted (.inl rfl) read
        · rcases inside with rfl | rfl
          · rw [step_within quote backslash] at read
            exact backslash (eq_backslash_of_readAll same read)
          · exact backslash (eq_backslash_of_readAll same read)

end Backslashes

/-- A value with a backslash is not read back from its phrase. -/
theorem phrases_readAll_phrase_ne {value : String} (escaped : '\\' ∈ value.toList)
    (rest : List Char) (more : List String) :
    (readAll ⟨.outside, phrases⟩ (phrase value ++ rest)).phrases ≠ phrases ++ value :: more := by
  obtain ⟨front, tail, split, first⟩ := List.eq_append_cons_of_mem escaped
  have written : phrase value ++ rest = '"' :: (front.flatMap phraseCharacter ++
      '\\' :: (tail.flatMap phraseCharacter ++ '"' :: rest)) := by
    rw [phrase_eq, split, List.flatMap_append, flatMap_phraseCharacter_cons (by decide)]
    simp
  have same : value.toList = front ++ List.replicate (0 + 1) '\\' ++ tail := by
    simpa using split
  rw [written, readAll_cons, step_outside_quote, readAll_append, readAll_within first,
    List.nil_append, readAll_cons, step_within_backslash]
  exact phrases_readAll_ne same (.inr rfl) rest

end Reader

/-- A spelled text is read back exactly if no value contains a backslash. -/
theorem Spells.readAll_eq_iff {text : List Char} {values : List String}
    (spelled : Spells text values) (phrases : List String) :
    Reader.readAll ⟨.outside, phrases⟩ text = ⟨.outside, phrases ++ values⟩ ↔
      ∀ value ∈ values, '\\' ∉ value.toList := by
  induction spelled generalizing phrases with
  | plain plain => simp [Reader.readAll_outside plain]
  | @phrase front rest value values plain _ ih =>
      rw [List.append_assoc, Reader.readAll_append, Reader.readAll_outside plain,
        List.forall_mem_cons]
      by_cases escaped : '\\' ∈ value.toList
      · refine iff_of_false (fun read => ?_) fun unescaped => unescaped.1 escaped
        exact Reader.phrases_readAll_phrase_ne escaped rest values (congrArg Reader.phrases read)
      · rw [Reader.readAll_append, Reader.readAll_phrase escaped, and_iff_right escaped, ← ih,
          List.append_assoc]
        rfl

open Grammar (ReadsAll)

/-- Whether the texts of both parts spell the given values. -/
structure Shows (parts : Parts) (query exact : List String) : Prop where
  query : ReadsAll Spells parts.query query
  exact : ReadsAll Spells parts.exact exact

/-- Texts that are left out for being empty spell nothing. -/
theorem readsAll_nonempty {texts : List (List Char)} {values : List String}
    (spelled : ReadsAll Spells texts values) :
    ReadsAll Spells (texts.filter fun text => !text.isEmpty) values :=
  spelled.filter fun blank read => read.eq_nil (by simpa using blank)

/-- Grouped texts spell what they spell one by one. -/
theorem readsAll_group {connective : Connective} {texts : List (List Char)} {values : List String}
    (spelled : ReadsAll Spells texts values) : ReadsAll Spells (group connective texts) values := by
  have filtered := readsAll_nonempty spelled
  unfold group
  split
  · rename_i none
    exact none ▸ filtered
  · rename_i one
    exact one ▸ filtered
  · have joined := filtered.intercalate .nil (Spells.separated connective)
    have opened : Spells ['('] [] := .plain (by decide)
    have closed : Spells [')'] [] := .plain (by decide)
    have enclosed := (opened.append joined).append closed
    rw [List.nil_append, List.append_nil] at enclosed
    exact .single enclosed

namespace Shows

variable {parts : Parts} {query exact : List String}

theorem empty : Shows .empty [] [] :=
  ⟨.nil, .nil⟩

/-- Parts one after the other show the values of both. -/
theorem append {others : Parts} {otherQuery otherExact : List String}
    (first : Shows parts query exact) (second : Shows others otherQuery otherExact) :
    Shows (parts.append others) (query ++ otherQuery) (exact ++ otherExact) :=
  ⟨first.query.append second.query, first.exact.append second.exact⟩

theorem group (shown : Shows parts query exact) (connective : Connective) :
    Shows (parts.group connective) query exact :=
  ⟨readsAll_group shown.query, readsAll_group shown.exact⟩

/-- Parts that are appended for the elements of a list show the values of each. -/
theorem foldr {α : Type} {elements : List α} {write : α → Parts} {kept sent : α → List String}
    (shown : ∀ element ∈ elements, Shows (write element) (kept element) (sent element)) :
    Shows (elements.foldr (fun element parts => (write element).append parts) .empty)
      (elements.flatMap kept) (elements.flatMap sent) := by
  induction elements with
  | nil => exact empty
  | cons first rest ih =>
      exact (shown first List.mem_cons_self).append
        (ih fun element member => shown element (List.mem_cons_of_mem _ member))

end Shows

/-- The characters of names are plain. -/
theorem isPlain_of_not_isMark {character : Char} (unmarked : Grammar.isMark character = false) :
    isPlain character = true := by
  rw [isPlain, Bool.and_eq_true, bne_iff_ne, bne_iff_ne]
  constructor <;> rintro rfl <;> exact absurd unmarked (by decide)

theorem isPlain_bound (value : Int64) : IsPlain (bound value) := by
  have digits : IsPlain (Numeral.digits value.toInt.natAbs) :=
    fun _ member => isPlain_of_not_isMark (Numeral.isMark_of_mem_digits member)
  rw [bound, Numeral.ofInt]
  split
  · exact List.forall_mem_cons.mpr ⟨by decide, digits⟩
  · exact digits

section Tests

variable {field : String} (plain : IsPlain field.toList)

include plain

/-- A term spells the phrase of its value. -/
theorem spells_term (value : String) : Spells (term field value) [value] := by
  have front : IsPlain (field.toList ++ [':']) := plain.append (by decide)
  have spelled : Spells (field.toList ++ [':'] ++ phrase value ++ []) [value] := .phrase front .nil
  simpa [term] using spelled

/-- Terms spell the phrases of their values. -/
theorem readsAll_terms (connective : Connective) (values : List String) :
    ReadsAll Spells (terms connective field values) values := by
  have spelled : ReadsAll Spells (values.map (term field)) (values.flatMap fun value => [value]) :=
    .of_forall fun value _ => spells_term plain value
  rw [List.flatMap_singleton'] at spelled
  exact readsAll_group spelled

/-- A comparison with a plain operand spells no phrases. -/
theorem spells_comparison {operand : List Char} (plainOperand : IsPlain operand) :
    Spells (field.toList ++ ':' :: operand) [] :=
  .plain (plain.append (List.forall_mem_cons.mpr ⟨by decide, plainOperand⟩))

/-- A test spells its own values, unless it asks for the required ones. -/
theorem shows_test {apart : Bool} {test : FieldTest} (evaluable : test.isFreeText = false)
    (required : List String) (written : Bool) :
    Shows (testParts field apart required written test)
      (if asksRequired apart test then if written then [] else required else ownTexts test)
      (sentTexts apart test) := by
  cases test with
  | freeText text => exact absurd evaluable.symm Bool.false_ne_true
  | equals value => exact ⟨.single (spells_term plain value), .nil⟩
  | anyOf values => exact ⟨readsAll_terms plain .or values, .nil⟩
  | allOf values =>
      refine ⟨?_, .nil⟩
      cases written with
      | true => exact .nil
      | false => exact readsAll_terms plain .and required
  | exact values =>
      cases apart with
      | true => exact ⟨.nil, readsAll_terms plain .and values⟩
      | false =>
          refine ⟨?_, .nil⟩
          cases written with
          | true => exact .nil
          | false => exact readsAll_terms plain .and required
  | noneOf values =>
      have negated : ReadsAll Spells (values.map fun value => '-' :: term field value)
          (values.flatMap fun value => [value]) :=
        .of_forall fun value _ =>
          (Spells.plain (show IsPlain ['-'] by decide)).append (spells_term plain value)
      rw [List.flatMap_singleton'] at negated
      exact ⟨readsAll_group (.cons (spells_comparison plain (by decide)) negated), .nil⟩
  | between range =>
      have operand : IsPlain ('[' :: bound range.earliest ++ [' ', 'T', 'O', ' '] ++
          bound range.latest ++ [']']) :=
        ((((show IsPlain ['['] by decide).append (isPlain_bound _)).append (by decide)).append
          (isPlain_bound _)).append (by decide)
      have spelled := spells_comparison plain operand
      refine ⟨.single (show Spells _ [] from ?_), .nil⟩
      simpa using spelled
  | flag value =>
      refine ⟨.single (spells_comparison plain ?_), .nil⟩
      cases value <;> decide

omit plain in
/-- A test that asks for required values has no others. -/
theorem ownTexts_of_asksRequired {apart : Bool} {test : FieldTest}
    (asks : asksRequired apart test = true) : ownTexts test = [] := by
  cases test with
  | allOf => rfl
  | exact => rfl
  | _ => exact absurd asks Bool.false_ne_true

/-- Tests spell their values in order. Once the required values have been written, no test writes
them again. -/
theorem shows_tests {apart : Bool} {tests : List FieldTest}
    (evaluable : ∀ test ∈ tests, test.isFreeText = false) (required : List String)
    (written : Bool) : Shows (testsParts field apart required written tests)
      (if written then tests.flatMap ownTexts else keptValues apart required tests)
      (tests.flatMap (sentTexts apart)) := by
  induction tests generalizing written with
  | nil => cases written <;> exact .empty
  | cons test rest ih =>
      have first : Shows (testParts field apart required written test) _ _ :=
        shows_test plain (evaluable test List.mem_cons_self) required written
      have later := ih (fun test member => evaluable test (List.mem_cons_of_mem _ member))
        (written || asksRequired apart test)
      have values : (if asksRequired apart test then if written then [] else required
          else ownTexts test) ++ (if (written || asksRequired apart test) then rest.flatMap ownTexts
            else keptValues apart required rest) =
          if written then (test :: rest).flatMap ownTexts
          else keptValues apart required (test :: rest) := by
        rw [List.flatMap_cons, keptValues]
        cases asks : asksRequired apart test with
        | false => cases written <;> rfl
        | true =>
            rw [ownTexts_of_asksRequired asks]
            cases written <;> rfl
      rw [← values]
      exact first.append later

end Tests

/-- The required values are the texts of the tests that ask for some. -/
theorem requiredValues_eq (apart : Bool) (tests : List FieldTest) :
    requiredValues apart tests = (tests.filter (asksRequired apart)).flatMap FieldTest.texts := by
  induction tests with
  | nil => rfl
  | cons test rest ih =>
      have asked : requiredValues apart (test :: rest) =
          (if asksRequired apart test then test.texts else []) ++ requiredValues apart rest := by
        rw [requiredValues, List.flatMap_cons, ← requiredValues]
        congr 1
        cases test with
        | exact => cases apart <;> rfl
        | _ => rfl
      rw [asked, ih]
      cases asks : asksRequired apart test with
      | true => rw [List.filter_cons_of_pos asks, List.flatMap_cons, if_pos rfl]
      | false => rw [List.filter_cons_of_neg (by simp [asks]), if_neg Bool.false_ne_true]; rfl

/-- Whether a test is written with all quotes in phrases: the field is plain, and the test is no
free text. -/
structure IsSpelled (field : String) (test : FieldTest) : Prop where
  plain : IsPlain field.toList
  evaluable : test.isFreeText = false

section Criteria

variable (settings : PortalSettings)

/-- The values of a clause are spelled where they are sent. -/
theorem shows_clause {clause : Clause} (spelled : clause.ConsistsOf IsSpelled)
    (routeExact : Bool) :
    let apart := routeExact && settings.isFilterable clause.field
    Shows (clauseParts settings routeExact clause)
      (keptValues apart ((clause.tests.filter (asksRequired apart)).flatMap FieldTest.texts)
        clause.tests)
      (clause.tests.flatMap (sentTexts apart)) := by
  intro apart
  obtain ⟨content, spelled⟩ := spelled
  obtain ⟨test, member⟩ := List.exists_mem_of_ne_nil _ content
  rw [← requiredValues_eq]
  exact shows_tests (spelled test member).plain (fun test member => (spelled test member).evaluable)
    _ false

/-- The values of a group are spelled where they are sent. -/
theorem shows_group {group : CriteriaGroup} (spelled : group.ConsistsOf IsSpelled) :
    Shows (groupParts settings group)
      (group.conjunctions.flatMap fun conjunction => conjunction.clauses.flatMap fun clause =>
        let apart := sendsApart settings group clause
        keptValues apart ((clause.tests.filter (asksRequired apart)).flatMap FieldTest.texts)
          clause.tests)
      (group.conjunctions.flatMap fun conjunction => conjunction.clauses.flatMap fun clause =>
        clause.tests.flatMap (sentTexts (sendsApart settings group clause))) := by
  refine (Shows.foldr fun conjunction member => ?_).group group.connective
  refine (Shows.foldr fun clause inside => ?_).group .and
  exact shows_clause settings ((spelled.2 conjunction member).2 clause inside) _

/-- The values of criteria are spelled where they are sent. -/
theorem shows_criteria {criteria : Criteria}
    (spelled : ∀ group ∈ criteria.groups, group.ConsistsOf IsSpelled) :
    Shows (criteria.groups.foldr (fun group parts =>
        (groupParts settings group).append parts) .empty)
      (queryValues settings criteria) (exactValues settings criteria) :=
  Shows.foldr fun group member => shows_group settings (spelled group member)

end Criteria

/-- The text at the top level is joined from the texts that are not empty. -/
theorem toList_topLevel (texts : List (List Char)) : ((topLevel texts).getD "").toList =
    (separator .and).intercalate (texts.filter fun text => !text.isEmpty) := by
  unfold topLevel
  split
  · rename_i blank
    rw [blank]
    rfl
  · rename_i joined _
    rw [Option.getD_some, String.toList_ofList]

/-- A part of a search is read back exactly if no value in it contains a backslash. -/
theorem readPart_topLevel_iff {texts : List (List Char)} {values : List String}
    (spelled : ReadsAll Spells texts values) :
    Reader.readPart (topLevel texts) = ⟨.outside, values⟩ ↔
      ∀ value ∈ values, '\\' ∉ value.toList := by
  have joined := (readsAll_nonempty spelled).intercalate .nil (Spells.separated .and)
  rw [Reader.readPart, toList_topLevel]
  exact joined.readAll_eq_iff []

end Portal

/-- **Phrases end where they should, but for backslashes.** If the fields that the portal takes are
plain, a reader of either text of the search of a query without free text ends outside of phrases
with exactly the values that are written there, in order, if and only if none of these values
contains a backslash. -/
theorem PortalSearch.read_ofQuery_iff {settings : PortalSettings} {query : Query}
    (plain : ∀ field ∈ settings.allowedFields, Portal.IsPlain field.toList)
    (evaluable : query.WithoutFreeText) (now : Instant) :
    let criteria := query.criteria now settings.includes
    let search := ofQuery settings now query
    (Portal.Reader.readPart search.query = ⟨.outside, Portal.queryValues settings criteria⟩ ↔
        ∀ value ∈ Portal.queryValues settings criteria, '\\' ∉ value.toList) ∧
      (Portal.Reader.readPart search.exact = ⟨.outside, Portal.exactValues settings criteria⟩ ↔
        ∀ value ∈ Portal.exactValues settings criteria, '\\' ∉ value.toList) := by
  intro criteria search
  have every : criteria.EveryTest Portal.IsSpelled :=
    (query.included_criteria.and (Query.withoutFreeText_criteria evaluable)).imp
      fun ⟨included, evaluable⟩ => by
        rw [PortalSettings.includes, Bool.and_eq_true] at included
        exact ⟨plain _ (List.contains_iff_mem.mp included.2), evaluable⟩
  have shown := Portal.shows_criteria settings (Query.consistsOf_criteria every)
  exact ⟨Portal.readPart_topLevel_iff shown.query, Portal.readPart_topLevel_iff shown.exact⟩

/-- Quotes in values of the search text and in an exact value that is sent apart. -/
theorem PortalSearch.read_ofQuery_iff_quoted :
    let settings : PortalSettings := ⟨["owner", "tags"], ["owner"], []⟩
    let query : Query := ⟨.item, [⟨.and, [.ofEntries
      [("tags", .options ⟨some (.many ["say \"hi\"", "OR"]), none, some (.one "\""), none⟩),
        ("owner", .options ⟨none, none, none, some (.one "o\"casey")⟩)]]⟩]⟩
    let search := ofQuery settings .epoch query
    search.query = some ("((tags:\"say \\\"hi\\\"\" OR tags:\"OR\") AND " ++
        "(tags:* AND -tags:\"\\\"\"))") ∧
      search.exact = some "owner:\"o\\\"casey\"" ∧
      Portal.Reader.readPart search.query = ⟨.outside, ["say \"hi\"", "OR", "\""]⟩ ∧
      Portal.Reader.readPart search.exact = ⟨.outside, ["o\"casey"]⟩ := by
  intro settings query search
  have plain : ∀ field ∈ settings.allowedFields, Portal.IsPlain field.toList := by
    decide
  have evaluable : query.WithoutFreeText := by
    unfold Query.WithoutFreeText
    decide
  have read := read_ofQuery_iff plain evaluable .epoch
  exact ⟨by decide, by decide, read.1.mpr (by decide), read.2.mpr (by decide)⟩

/-- Behind a backslash the quote that should close a phrase does not: the phrases of a search are
not always the values that are written there. -/
theorem PortalSearch.phrase_left_open :
    ¬ ∀ (settings : PortalSettings) (query : Query) (now : Instant),
      (∀ field ∈ settings.allowedFields, Portal.IsPlain field.toList) → query.WithoutFreeText →
        Portal.Reader.readPart (ofQuery settings now query).query =
          ⟨.outside, Portal.queryValues settings (query.criteria now settings.includes)⟩ := by
  intro closed
  let settings : PortalSettings := ⟨["tags"], [], []⟩
  let query : Query := ⟨.item, [⟨.and, [.ofEntries [("tags", .text "a\\")]]⟩]⟩
  have plain : ∀ field ∈ settings.allowedFields, Portal.IsPlain field.toList := by
    decide
  have evaluable : query.WithoutFreeText := by
    unfold Query.WithoutFreeText
    decide
  have unclosed : Portal.Reader.readPart (ofQuery settings .epoch query).query =
      ⟨.within ['a', '"'], []⟩ := by
    decide
  exact absurd ((closed settings query .epoch plain evaluable).symm.trans unclosed) (by decide)

end CatalogSearch
