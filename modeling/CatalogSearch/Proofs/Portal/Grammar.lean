import CatalogSearch.Portal.Search
import CatalogSearch.Proofs.Criteria.Truth
import CatalogSearch.Proofs.Syntax.Delimited

/-!
# The language of portal searches

A search text is a conjunction of comparisons and of groups in parentheses. What it means is whether
a document is found, and no text means two things (`Portal.Reading.unique`).
-/

namespace CatalogSearch

namespace Portal

/-- Whether a character stands for itself in a phrase. -/
def isPlain (character : Char) : Bool :=
  character != '"' && character != '\\'

/-- Whether every character of a value stands for itself in a phrase. -/
def IsPlain (value : List Char) : Prop :=
  ∀ character ∈ value, isPlain character = true

instance (value : List Char) : Decidable (IsPlain value) :=
  decidable_of_iff (value.all isPlain = true) List.all_eq_true

/-- A value between quotes. -/
inductive Phrase : List Char → String → Prop where
  | quoted {value : List Char} (plain : IsPlain value) :
      Phrase ('"' :: value ++ ['"']) (String.ofList value)

/-- What a comparison asks of the value of a field: to have a text, to be present, to lie in a range
of numbers, or to have the word for a truth value. -/
inductive Operand : List Char → (Option Json → Bool) → Prop where
  | phrase {text : List Char} {value : String} (read : Phrase text value) :
      Operand text (hasText value)
  | present : Operand ['*'] Option.isSome
  | range {first second : List Char} {low high : Int} (readLow : Numeral.Reads first low)
      (readHigh : Numeral.Reads second high) :
      Operand ('[' :: first ++ [' ', 'T', 'O', ' '] ++ second ++ [']']) (liesBetween low high)
  | word (flag : Bool) : Operand (flagText flag).toList (hasText (flagText flag))

/-- A comparison of a field, the negation of one with a value, or a group of several expressions. -/
inductive Expression : List Char → (Document → Bool) → Prop where
  | comparison {field operand : List Char} {outcome : Option Json → Bool}
      (named : Grammar.IsName field) (read : Operand operand outcome) :
      Expression (field ++ ':' :: operand)
        fun document => outcome (document.value? (String.ofList field))
  | negation {field text : List Char} {value : String} (named : Grammar.IsName field)
      (read : Phrase text value) :
      Expression ('-' :: field ++ ':' :: text)
        fun document => !hasText value (document.value? (String.ofList field))
  | group {connective : Connective} {parts : List (List Char × (Document → Bool))}
      (several : 2 ≤ parts.length) (read : ∀ part ∈ parts, Expression part.1 part.2) :
      Expression ('(' :: (separator connective).intercalate (parts.map Prod.fst) ++ [')'])
        fun document => connective.combine (parts.map fun part => part.2 document)

/-- One expression or several, all of which must hold. -/
inductive SearchText : List Char → (Document → Bool) → Prop where
  | all {parts : List (List Char × (Document → Bool))} (content : parts ≠ [])
      (read : ∀ part ∈ parts, Expression part.1 part.2) :
      SearchText ((separator .and).intercalate (parts.map Prod.fst))
        fun document => parts.all fun part => part.2 document

/-- The meaning of a part of a search. A part that is absent asks for nothing. -/
inductive Reading : Option String → (Document → Bool) → Prop where
  | absent : Reading none fun _ => true
  | text {text : String} {meaning : Document → Bool} (read : SearchText text.toList meaning) :
      Reading (some text) meaning

/-- No character goes on behind an expression. -/
def nothing (_ : Char) : Bool :=
  false

/-- A phrase ends at its second quote. -/
theorem Phrase.determines {text : List Char} {value : String} (read : Phrase text value) :
    Grammar.Determines Phrase nothing text value := by
  intro other otherValue rest otherRest otherRead _ _ same
  obtain ⟨plain⟩ := read
  obtain ⟨otherPlain⟩ := otherRead
  simp only [List.cons_append, List.append_assoc, List.nil_append] at same
  obtain ⟨rfl, _⟩ := Grammar.run_eq plain otherPlain (Grammar.stops_cons rfl)
    (Grammar.stops_cons rfl) (List.cons.inj same).2
  exact ⟨rfl, rfl⟩

/-- An operand is told apart from what follows it. -/
theorem Operand.determines {text : List Char} {outcome : Option Json → Bool}
    (read : Operand text outcome) : Grammar.Determines Operand nothing text outcome := by
  intro other otherOutcome rest otherRest otherRead stops otherStops same
  cases read with
  | phrase read =>
      cases otherRead with
      | phrase otherRead =>
          obtain ⟨rfl, rfl⟩ := read.determines otherRead stops otherStops same
          exact ⟨rfl, rfl⟩
      | word flag =>
          obtain ⟨_⟩ := read
          cases flag <;> simp [flagText] at same
      | _ =>
          obtain ⟨_⟩ := read
          simp at same
  | present =>
      cases otherRead with
      | phrase otherRead =>
          obtain ⟨_⟩ := otherRead
          simp at same
      | present => exact ⟨rfl, rfl⟩
      | range => simp at same
      | word flag => cases flag <;> simp [flagText] at same
  | range readLow readHigh =>
      cases otherRead with
      | phrase otherRead =>
          obtain ⟨_⟩ := otherRead
          simp at same
      | present => simp at same
      | range otherLow otherHigh =>
          simp only [List.cons_append, List.append_assoc, List.nil_append] at same
          have sameRange := (List.cons.inj same).2
          obtain ⟨rfl, rfl⟩ := Numeral.determines_of_reads readLow otherLow
            (Grammar.stops_cons rfl) (Grammar.stops_cons rfl) sameRange
          obtain ⟨rfl, rfl⟩ := Numeral.determines_of_reads readHigh otherHigh
            (Grammar.stops_cons rfl) (Grammar.stops_cons rfl) (by simpa using sameRange)
          exact ⟨rfl, rfl⟩
      | word flag => cases flag <;> simp [flagText] at same
  | word flag =>
      cases otherRead with
      | phrase otherRead =>
          obtain ⟨_⟩ := otherRead
          cases flag <;> simp [flagText] at same
      | word otherFlag =>
          cases flag <;> cases otherFlag <;> first | exact ⟨rfl, rfl⟩ | simp [flagText] at same
      | _ => cases flag <;> simp [flagText] at same

/-- The connectives are told apart from each other and from what they separate. -/
theorem separates : Grammar.Separates separator nothing :=
  Grammar.separates_connectives rfl

theorem ends_closed (rest : List Char) : Grammar.Ends separator nothing (')' :: rest) :=
  Grammar.ends_closed rfl fun connective => ⟨' ', _, rfl, by decide⟩

theorem ends_nil : Grammar.Ends separator nothing [] :=
  Grammar.ends_nil fun _ => List.cons_ne_nil _ _

/-- An expression ends with its own last character. -/
theorem Expression.determines {text : List Char} {meaning : Document → Bool}
    (read : Expression text meaning) : Grammar.Determines Expression nothing text meaning := by
  induction read with
  | comparison named read =>
      intro other otherMeaning rest otherRest otherRead stops otherStops same
      cases otherRead with
      | comparison otherNamed otherRead =>
          simp only [List.cons_append, List.append_assoc] at same
          obtain ⟨rfl, _, rests⟩ := Grammar.name_eq named otherNamed rfl rfl same
          obtain ⟨rfl, rfl⟩ := read.determines otherRead stops otherStops rests.symm
          exact ⟨rfl, rfl⟩
      | negation =>
          simp only [List.cons_append, List.append_assoc] at same
          exact absurd same (named.append_ne_mark rfl _ _)
      | group =>
          simp only [List.cons_append, List.append_assoc] at same
          exact absurd same (named.append_ne_mark rfl _ _)
  | negation named read =>
      intro other otherMeaning rest otherRest otherRead stops otherStops same
      cases otherRead with
      | comparison otherNamed =>
          simp only [List.cons_append, List.append_assoc] at same
          exact absurd same.symm (otherNamed.append_ne_mark rfl _ _)
      | negation otherNamed otherRead =>
          simp only [List.cons_append, List.append_assoc] at same
          obtain ⟨rfl, _, rests⟩ :=
            Grammar.name_eq named otherNamed rfl rfl (List.cons.inj same).2
          obtain ⟨rfl, rfl⟩ := read.determines otherRead stops otherStops rests.symm
          exact ⟨rfl, rfl⟩
      | group => simp at same
  | group several read ih =>
      intro other otherMeaning rest otherRest otherRead stops otherStops same
      cases otherRead with
      | comparison otherNamed =>
          simp only [List.cons_append, List.append_assoc] at same
          exact absurd same.symm (otherNamed.append_ne_mark rfl _ _)
      | negation => simp at same
      | group otherSeveral otherRead =>
          rename_i connective parts otherConnective otherParts
          simp only [List.cons_append, List.append_assoc] at same
          obtain ⟨rfl, _, connectives⟩ := Grammar.joined_eq separates _ _ ih otherRead
            (ends_closed _) (ends_closed _) (List.ne_nil_of_length_pos (by omega))
            (List.ne_nil_of_length_pos (by omega)) (List.cons.inj same).2
          obtain rfl := connectives several
          exact ⟨rfl, rfl⟩

/-- A search text is made of expressions, one or more, all of which are required. -/
theorem SearchText.exists_parts {text : List Char} {meaning : Document → Bool}
    (read : SearchText text meaning) : ∃ parts : List (List Char × (Document → Bool)),
      parts ≠ [] ∧ (∀ part ∈ parts, Expression part.1 part.2) ∧
        text = (separator .and).intercalate (parts.map Prod.fst) ∧
          meaning = fun document => parts.all fun part => part.2 document := by
  obtain ⟨content, expressions⟩ := read
  exact ⟨_, content, expressions, rfl, rfl⟩

/-- A search text has one meaning. -/
theorem SearchText.unique {text : List Char} {meaning other : Document → Bool}
    (read : SearchText text meaning) (otherRead : SearchText text other) : other = meaning := by
  obtain ⟨parts, content, expressions, joined, rfl⟩ := read.exists_parts
  obtain ⟨otherParts, otherContent, otherExpressions, otherJoined, rfl⟩ := otherRead.exists_parts
  have same : (separator .and).intercalate (parts.map Prod.fst) ++ [] =
      (separator .and).intercalate (otherParts.map Prod.fst) ++ [] := by
    rw [← joined, ← otherJoined]
  obtain ⟨rfl, _⟩ := Grammar.joined_eq separates _ _
    (fun part member => (expressions part member).determines) otherExpressions ends_nil ends_nil
    content otherContent same
  rfl

/-- A part of a search has one meaning. -/
theorem Reading.unique {part : Option String} {meaning other : Document → Bool}
    (read : Reading part meaning) (otherRead : Reading part other) : other = meaning := by
  cases read with
  | absent =>
      cases otherRead
      rfl
  | text read =>
      cases otherRead with
      | text otherRead => exact read.unique otherRead

end Portal

end CatalogSearch
