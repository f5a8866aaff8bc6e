import CatalogSearch.Ogc.Expression
import CatalogSearch.Proofs.Syntax.Combination

/-!
# The language of filter expressions

An expression is a conjunction of comparisons and of groups in parentheses. What it means is whether
a document is found, and no text means two things (`Ogc.Reading.unique`).
-/

namespace CatalogSearch

namespace Ogc

/-- Whether a word goes on with a character. -/
def goesOn (character : Char) : Bool :=
  !(Text.isBlank character || [',', '(', ')'].contains character)

/-- The characters of a value between single quotes, where every quote of the value is doubled. -/
inductive Quoted : List Char → List Char → Prop where
  | nil : Quoted [] []
  | quote {text value : List Char} (read : Quoted text value) :
      Quoted ('\x27' :: '\x27' :: text) ('\x27' :: value)
  | other {character : Char} {text value : List Char} (plain : character ≠ '\x27')
      (read : Quoted text value) : Quoted (character :: text) (character :: value)

/-- A value as a word, or between single quotes. -/
inductive Literal : List Char → String → Prop where
  | word {word : List Char} (content : word ≠ [])
      (plain : ∀ character ∈ word, goesOn character = true ∧ character ≠ '\x27') :
      Literal word (String.ofList word)
  | quoted {text value : List Char} (read : Quoted text value) :
      Literal ('\x27' :: text ++ ['\x27']) (String.ofList value)

/-- What a comparison asks of the value of a field: to have a text, one of several texts or none of
them, or to lie in a range of numbers. -/
inductive Operand : List Char → (Option Json → Bool) → Prop where
  | equal {text : List Char} {value : String} (read : Literal text value) :
      Operand ('=' :: text) (hasText value)
  | among {parts : List (List Char × String)} (content : parts ≠ [])
      (read : ∀ part ∈ parts, Literal part.1 part.2) :
      Operand (" IN ".toList ++ enclosed ([',', ' '].intercalate (parts.map Prod.fst)))
        fun value => parts.any fun part => hasText part.2 value
  | notAmong {parts : List (List Char × String)} (content : parts ≠ [])
      (read : ∀ part ∈ parts, Literal part.1 part.2) :
      Operand (" NOT IN ".toList ++ enclosed ([',', ' '].intercalate (parts.map Prod.fst)))
        fun value => value.isSome && parts.all fun part => !hasText part.2 value
  | between {first second : List Char} {low high : Int} (readLow : Numeral.Reads first low)
      (readHigh : Numeral.Reads second high) :
      Operand (" BETWEEN ".toList ++ first ++ separator .and ++ second) (liesBetween low high)

/-- A comparison of a field, or a group of expressions. -/
inductive Expression : List Char → (Document → Bool) → Prop where
  | comparison {field operand : List Char} {outcome : Option Json → Bool}
      (named : Grammar.IsName field) (read : Operand operand outcome) :
      Expression (field ++ operand) fun document => outcome (document.value? (String.ofList field))
  | group {connective : Connective} {parts : List (List Char × (Document → Bool))}
      (content : parts ≠ []) (read : ∀ part ∈ parts, Expression part.1 part.2) :
      Expression (enclosed ((separator connective).intercalate (parts.map Prod.fst)))
        fun document => connective.combine (parts.map fun part => part.2 document)

/-- Expressions that must all hold. The empty text asks for nothing. -/
inductive Reading : String → (Document → Bool) → Prop where
  | all {text : String} {parts : List (List Char × (Document → Bool))}
      (read : ∀ part ∈ parts, Expression part.1 part.2)
      (joined : text.toList = (separator .and).intercalate (parts.map Prod.fst)) :
      Reading text fun document => parts.all fun part => part.2 document

/-- A quoted value ends at the first quote that is not doubled. -/
theorem Quoted.unique {text value : List Char} (read : Quoted text value)
    {other otherValue rest otherRest : List Char} (otherRead : Quoted other otherValue)
    (stops : Grammar.Stops goesOn rest) (otherStops : Grammar.Stops goesOn otherRest)
    (same : text ++ '\x27' :: rest = other ++ '\x27' :: otherRest) :
    other = text ∧ otherValue = value := by
  have single {rest tail : List Char} (stops : Grammar.Stops goesOn rest)
      (more : rest = '\x27' :: tail) : False := by
    rw [more] at stops
    exact Bool.false_ne_true (stops '\x27' rfl).symm
  induction read generalizing other otherValue with
  | nil =>
      cases otherRead with
      | nil => exact ⟨rfl, rfl⟩
      | quote => exact (single stops (List.cons.inj same).2).elim
      | other plain => exact absurd (List.cons.inj same).1.symm plain
  | quote read ih =>
      cases otherRead with
      | nil => exact (single otherStops (List.cons.inj same).2.symm).elim
      | quote otherRead =>
          obtain ⟨rfl, rfl⟩ := ih otherRead (List.cons.inj (List.cons.inj same).2).2
          exact ⟨rfl, rfl⟩
      | other plain => exact absurd (List.cons.inj same).1.symm plain
  | other plain read ih =>
      cases otherRead with
      | nil => exact absurd (List.cons.inj same).1 plain
      | quote => exact absurd (List.cons.inj same).1 plain
      | other otherPlain otherRead =>
          obtain ⟨rfl, tails⟩ := List.cons.inj same
          obtain ⟨rfl, rfl⟩ := ih otherRead tails
          exact ⟨rfl, rfl⟩

/-- A word ends where it cannot go on, and a quoted value with its quote. -/
theorem Literal.determines {text : List Char} {value : String} (read : Literal text value) :
    Grammar.Determines Literal goesOn text value := by
  have unquoted {word rest otherRest : List Char} (content : word ≠ [])
      (plain : ∀ character ∈ word, goesOn character = true ∧ character ≠ '\x27') :
      word ++ rest ≠ '\x27' :: otherRest := by
    obtain ⟨first, others, rfl⟩ := List.exists_cons_of_ne_nil content
    exact fun same => (plain first List.mem_cons_self).2 (List.cons.inj same).1
  intro other otherValue rest otherRest otherRead stops otherStops same
  cases read with
  | word content plain =>
      cases otherRead with
      | word otherContent otherPlain =>
          obtain ⟨rfl, _⟩ := Grammar.run_eq (fun character member => (plain character member).1)
            (fun character member => (otherPlain character member).1) stops otherStops same
          exact ⟨rfl, rfl⟩
      | quoted => exact absurd same (unquoted content plain)
  | quoted read =>
      cases otherRead with
      | word otherContent otherPlain => exact absurd same.symm (unquoted otherContent otherPlain)
      | quoted otherRead =>
          simp only [List.cons_append, List.append_assoc, List.nil_append] at same
          obtain ⟨rfl, rfl⟩ := read.unique otherRead stops otherStops (List.cons.inj same).2
          exact ⟨rfl, rfl⟩

/-- The connectives are told apart from each other and from what they separate. -/
theorem separates : Grammar.Separates separator goesOn :=
  Grammar.separates_connectives rfl

theorem ends_closed (rest : List Char) : Grammar.Ends separator goesOn (')' :: rest) :=
  Grammar.ends_closed rfl fun connective => ⟨' ', _, rfl, by decide⟩

theorem ends_nil : Grammar.Ends separator goesOn [] :=
  Grammar.ends_nil fun _ => List.cons_ne_nil _ _

/-- Items are separated by commas with blanks behind them. -/
theorem separates_commas : Grammar.Separates (fun _ : Unit => [',', ' ']) goesOn where
  apart := fun same => ⟨rfl, by simpa using same.symm⟩
  stops := fun _ _ => Grammar.stops_cons rfl

/-- Values between parentheses can be told apart from what follows. -/
theorem literals_eq {parts others : List (List Char × String)} {rest otherRest : List Char}
    (content : parts ≠ []) (read : ∀ part ∈ parts, Literal part.1 part.2)
    (otherContent : others ≠ []) (otherRead : ∀ part ∈ others, Literal part.1 part.2)
    (same : enclosed ([',', ' '].intercalate (parts.map Prod.fst)) ++ rest =
      enclosed ([',', ' '].intercalate (others.map Prod.fst)) ++ otherRest) : others = parts := by
  have closed (rest : List Char) :
      Grammar.Ends (fun _ : Unit => [',', ' ']) goesOn (')' :: rest) :=
    Grammar.ends_closed rfl fun _ => ⟨',', [' '], rfl, by decide⟩
  simp only [enclosed, List.cons_append, List.append_assoc, List.nil_append] at same
  exact (Grammar.joined_eq separates_commas () ()
    (fun part member => (read part member).determines) otherRead (closed _) (closed _) content
    otherContent (List.cons.inj same).2).1

/-- Digits stop where expressions do. -/
theorem stops_digits {rest : List Char} (stops : Grammar.Stops goesOn rest) :
    Grammar.Stops Char.isDigit rest := by
  intro character first
  have ended := stops character first
  rw [Bool.eq_false_iff]
  intro digit
  have unmarked : Grammar.isMark character = false :=
    Grammar.isMark_of_alphanumeric (by simp [Char.isAlphanum, digit])
  rw [Grammar.isMark, Bool.or_eq_false_iff] at unmarked
  simp only [goesOn, unmarked.1, Bool.false_or, Bool.not_eq_false', List.contains_iff_mem,
    List.mem_cons, List.not_mem_nil, or_false] at ended
  rcases ended with rfl | rfl | rfl <;> exact absurd digit (by decide)

/-- A comparison ends where its last word, numeral or list ends. -/
theorem Operand.determines {text : List Char} {outcome : Option Json → Bool}
    (read : Operand text outcome) : Grammar.Determines Operand goesOn text outcome := by
  intro other otherOutcome rest otherRest otherRead stops otherStops same
  cases read with
  | equal read =>
      cases otherRead with
      | equal otherRead =>
          obtain ⟨rfl, rfl⟩ := read.determines otherRead stops otherStops (List.cons.inj same).2
          exact ⟨rfl, rfl⟩
      | _ => simp at same
  | among content read =>
      cases otherRead with
      | among otherContent otherRead =>
          rw [List.append_assoc, List.append_assoc] at same
          obtain rfl := literals_eq content read otherContent otherRead
            (List.append_cancel_left same)
          exact ⟨rfl, rfl⟩
      | _ => simp at same
  | notAmong content read =>
      cases otherRead with
      | notAmong otherContent otherRead =>
          rw [List.append_assoc, List.append_assoc] at same
          obtain rfl := literals_eq content read otherContent otherRead
            (List.append_cancel_left same)
          exact ⟨rfl, rfl⟩
      | _ => simp at same
  | between readLow readHigh =>
      cases otherRead with
      | between otherLow otherHigh =>
          simp only [List.append_assoc] at same
          have numbers := List.append_cancel_left same
          obtain ⟨rfl, rfl⟩ := Numeral.determines_of_reads readLow otherLow
            (Grammar.stops_cons rfl) (Grammar.stops_cons rfl) numbers
          obtain ⟨rfl, rfl⟩ := Numeral.determines_of_reads readHigh otherHigh
            (stops_digits stops) (stops_digits otherStops)
            (List.append_cancel_left (List.append_cancel_left numbers))
          exact ⟨rfl, rfl⟩
      | _ => simp at same

/-- An operand begins with a mark. -/
theorem Operand.exists_mark {text : List Char} {outcome : Option Json → Bool}
    (read : Operand text outcome) :
    ∃ mark rest, text = mark :: rest ∧ Grammar.isMark mark = true := by
  cases read with
  | equal => exact ⟨'=', _, rfl, rfl⟩
  | _ => exact ⟨' ', _, rfl, rfl⟩

/-- An expression ends with its comparison or with its parenthesis. -/
theorem Expression.determines {text : List Char} {meaning : Document → Bool}
    (read : Expression text meaning) : Grammar.Determines Expression goesOn text meaning := by
  induction read with
  | comparison named read =>
      intro other otherMeaning rest otherRest otherRead stops otherStops same
      cases otherRead with
      | comparison otherNamed otherRead =>
          obtain ⟨mark, tail, rfl, marked⟩ := read.exists_mark
          obtain ⟨otherMark, otherTail, rfl, otherMarked⟩ := otherRead.exists_mark
          simp only [List.cons_append, List.append_assoc] at same
          obtain ⟨rfl, rfl, rests⟩ := Grammar.name_eq named otherNamed marked otherMarked same
          obtain ⟨texts, rfl⟩ := read.determines otherRead stops otherStops (by simp [rests])
          rw [texts]
          exact ⟨rfl, rfl⟩
      | group =>
          rw [List.append_assoc] at same
          exact absurd same (named.append_ne_mark rfl _ _)
  | group content read ih =>
      intro other otherMeaning rest otherRest otherRead stops otherStops same
      cases otherRead with
      | comparison otherNamed otherRead =>
          rw [List.append_assoc] at same
          exact absurd same.symm (otherNamed.append_ne_mark rfl _ _)
      | group otherContent otherRead =>
          rename_i connective parts otherConnective otherParts
          simp only [enclosed, List.cons_append, List.append_assoc] at same
          obtain ⟨rfl, _, connectives⟩ := Grammar.joined_eq separates _ _ ih otherRead
            (ends_closed _) (ends_closed _) content otherContent (List.cons.inj same).2
          rcases otherParts with _ | ⟨part, _ | ⟨second, others⟩⟩
          · exact absurd rfl otherContent
          · -- A single expression in parentheses means the same as either kind of group.
            refine ⟨by simp only [List.map_singleton, List.intercalate_singleton], ?_⟩
            funext document
            rw [List.map_singleton, Grammar.combine_singleton, Grammar.combine_singleton]
          · obtain rfl := connectives (by simp)
            exact ⟨rfl, rfl⟩

/-- No expression is an empty text. -/
theorem Expression.ne_nil {text : List Char} {meaning : Document → Bool}
    (read : Expression text meaning) : text ≠ [] := by
  cases read with
  | comparison named => exact List.append_ne_nil_of_left_ne_nil named.1 _
  | group => exact List.cons_ne_nil _ _

/-- Joined expressions are an empty text only if there are none. -/
theorem joined_eq_nil_iff {parts : List (List Char × (Document → Bool))}
    (read : ∀ part ∈ parts, Expression part.1 part.2) :
    (separator .and).intercalate (parts.map Prod.fst) = [] ↔ parts = [] := by
  constructor
  · intro blank
    cases parts with
    | nil => rfl
    | cons first rest =>
        rw [List.map_cons, Grammar.intercalate_cons, List.append_eq_nil_iff] at blank
        exact absurd blank.1 (read first List.mem_cons_self).ne_nil
  · rintro rfl
    rfl

/-- An expression has one meaning. -/
theorem Reading.unique {text : String} {meaning other : Document → Bool}
    (read : Reading text meaning) (otherRead : Reading text other) : other = meaning := by
  cases read with
  | all read joined =>
      cases otherRead with
      | all otherRead otherJoined =>
          rename_i parts otherParts
          have same := joined.symm.trans otherJoined
          by_cases content : parts = []
          · have blank := (joined_eq_nil_iff read).mpr content
            rw [same] at blank
            rw [content, (joined_eq_nil_iff otherRead).mp blank]
          · have otherContent : otherParts ≠ [] := by
              rw [ne_eq, ← joined_eq_nil_iff otherRead, ← same, joined_eq_nil_iff read]
              exact content
            obtain ⟨rfl, _⟩ := Grammar.joined_eq separates .and .and
              (fun part member => (read part member).determines) otherRead ends_nil ends_nil
              content otherContent (congrArg (· ++ []) same)
            rfl

end Ogc

end CatalogSearch
