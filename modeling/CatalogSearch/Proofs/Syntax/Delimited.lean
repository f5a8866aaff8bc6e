import CatalogSearch.Number.Numeral
import CatalogSearch.Query.Basic
import CatalogSearch.Text.Blank
import Mathlib.Data.List.TakeWhile

/-!
# Delimited texts

A grammar relates texts to what they mean. If every text of a list can be told apart from what
follows it, the joined list has one reading (`joined_eq`), and so have names and numerals.
-/

namespace CatalogSearch

namespace Grammar

/-- Whether a text does not begin with a character that is kept. -/
def Stops (keep : Char → Bool) (rest : List Char) : Prop :=
  ∀ character ∈ rest.head?, keep character = false

/-- A text that begins with a character that is not kept stops. -/
theorem stops_cons {keep : Char → Bool} {first : Char} {rest : List Char}
    (marked : keep first = false) : Stops keep (first :: rest) := by
  intro character same
  cases same
  exact marked

/-- A run of kept characters is told apart from what follows it. -/
theorem span_append {keep : Char → Bool} {run rest : List Char}
    (kept : ∀ character ∈ run, keep character = true) (stops : Stops keep rest) :
    (run ++ rest).takeWhile keep = run ∧ (run ++ rest).dropWhile keep = rest := by
  rw [List.takeWhile_append_of_pos kept, List.dropWhile_append_of_pos kept]
  cases rest with
  | nil => exact ⟨List.append_nil run, rfl⟩
  | cons first others =>
      have stopped := Bool.eq_false_iff.mp (stops first rfl)
      rw [List.takeWhile_cons_of_neg stopped, List.dropWhile_cons_of_neg stopped]
      exact ⟨List.append_nil run, rfl⟩

/-- Whether nothing else can be read at the beginning of a text with something behind it that stops.
-/
def Determines {α : Type} (reads : List Char → α → Prop) (keep : Char → Bool) (text : List Char)
    (meaning : α) : Prop :=
  ∀ ⦃other : List Char⦄ ⦃otherMeaning : α⦄ ⦃rest otherRest : List Char⦄,
    reads other otherMeaning → Stops keep rest → Stops keep otherRest →
      text ++ rest = other ++ otherRest → other = text ∧ otherMeaning = meaning

/-- A run of kept characters ends where the text stops. -/
theorem run_eq {keep : Char → Bool} {run other rest otherRest : List Char}
    (kept : ∀ character ∈ run, keep character = true)
    (otherKept : ∀ character ∈ other, keep character = true)
    (stops : Stops keep rest) (otherStops : Stops keep otherRest)
    (same : run ++ rest = other ++ otherRest) : other = run ∧ otherRest = rest := by
  induction run generalizing other with
  | nil =>
      cases other with
      | nil => exact ⟨rfl, same.symm⟩
      | cons first others =>
          have goesOn := otherKept first List.mem_cons_self
          rw [List.nil_append] at same
          rw [stops first (by simp [same])] at goesOn
          exact absurd goesOn Bool.false_ne_true
  | cons first run ih =>
      cases other with
      | nil =>
          have goesOn := kept first List.mem_cons_self
          rw [List.nil_append] at same
          rw [otherStops first (by simp [← same])] at goesOn
          exact absurd goesOn Bool.false_ne_true
      | cons otherFirst others =>
          obtain ⟨firsts, sameTail⟩ := List.cons.inj same
          obtain ⟨runs, rests⟩ := ih (fun character member => kept character (.tail first member))
            (fun character member => otherKept character (.tail otherFirst member)) sameTail
          exact ⟨by rw [firsts, runs], rests⟩

section Joined

variable {ι α : Type} {separator : ι → List Char} {keep : Char → Bool}
  {reads : List Char → α → Prop}

/-- Separators that can be told apart from each other and from what they separate. -/
structure Separates (separator : ι → List Char) (keep : Char → Bool) : Prop where
  apart : ∀ {first second : ι} {rest otherRest : List Char},
    separator first ++ rest = separator second ++ otherRest → second = first ∧ otherRest = rest
  stops : ∀ (index : ι) (rest : List Char), Stops keep (separator index ++ rest)

/-- A text that ends a joined list in front of it. -/
structure Ends (separator : ι → List Char) (keep : Char → Bool) (rest : List Char) : Prop where
  stops : Stops keep rest
  apart : ∀ (index : ι) (tail : List Char), rest ≠ separator index ++ tail

/-- A joined list begins with its first text, and the separator stands in front of every other. -/
theorem intercalate_cons (between text : List Char) (texts : List (List Char)) :
    between.intercalate (text :: texts) = text ++ texts.flatMap (between ++ ·) := by
  induction texts generalizing text with
  | nil => simp
  | cons next texts ih =>
      rw [List.intercalate_cons_cons, ih, List.flatMap_cons, List.append_assoc, List.append_assoc]

variable {first second : ι} {rest otherRest : List Char}

/-- What follows a text of a joined list stops. -/
theorem stops_rest (separates : Separates separator keep) (ends : Ends separator keep rest)
    (index : ι) (texts : List (List Char)) :
    Stops keep (texts.flatMap (separator index ++ ·) ++ rest) := by
  cases texts with
  | nil => exact ends.stops
  | cons text texts =>
      rw [List.flatMap_cons, List.append_assoc, List.append_assoc]
      exact separates.stops index _

/-- Behind its first text, a joined list has one reading. -/
theorem rest_eq (separates : Separates separator keep) {parts others : List (List Char × α)}
    (determined : ∀ part ∈ parts, Determines reads keep part.1 part.2)
    (read : ∀ other ∈ others, reads other.1 other.2)
    (ends : Ends separator keep rest) (otherEnds : Ends separator keep otherRest)
    (same : (parts.map Prod.fst).flatMap (separator first ++ ·) ++ rest =
      (others.map Prod.fst).flatMap (separator second ++ ·) ++ otherRest) :
    others = parts ∧ otherRest = rest ∧ (parts ≠ [] → second = first) := by
  induction parts generalizing others with
  | nil =>
      cases others with
      | nil => exact ⟨rfl, same.symm, fun content => absurd rfl content⟩
      | cons other others =>
          simp only [List.map_nil, List.flatMap_nil, List.nil_append, List.map_cons,
            List.flatMap_cons, List.append_assoc] at same
          exact absurd same (ends.apart second _)
  | cons part parts ih =>
      cases others with
      | nil =>
          simp only [List.map_nil, List.flatMap_nil, List.nil_append, List.map_cons,
            List.flatMap_cons, List.append_assoc] at same
          exact absurd same.symm (otherEnds.apart first _)
      | cons other others =>
          simp only [List.map_cons, List.flatMap_cons, List.append_assoc] at same
          obtain ⟨indices, sameHead⟩ := separates.apart same
          obtain ⟨texts, meanings⟩ := determined part List.mem_cons_self
            (read other List.mem_cons_self) (stops_rest separates ends first _)
            (stops_rest separates otherEnds second _) sameHead.symm
          rw [texts] at sameHead
          obtain ⟨tails, rests, _⟩ := ih
            (fun part member => determined part (List.mem_cons_of_mem _ member))
            (fun other member => read other (List.mem_cons_of_mem _ member))
            (List.append_cancel_left sameHead).symm
          exact ⟨by rw [Prod.ext texts meanings, tails], rests, fun _ => indices⟩

/-- A joined list has one reading, up to the separator of a list of one. -/
theorem joined_eq (separates : Separates separator keep) (first second : ι)
    {parts others : List (List Char × α)}
    (determined : ∀ part ∈ parts, Determines reads keep part.1 part.2)
    (read : ∀ other ∈ others, reads other.1 other.2)
    (ends : Ends separator keep rest) (otherEnds : Ends separator keep otherRest)
    (content : parts ≠ []) (otherContent : others ≠ [])
    (same : (separator first).intercalate (parts.map Prod.fst) ++ rest =
      (separator second).intercalate (others.map Prod.fst) ++ otherRest) :
    others = parts ∧ otherRest = rest ∧ (2 ≤ parts.length → second = first) := by
  obtain ⟨part, parts, rfl⟩ := List.exists_cons_of_ne_nil content
  obtain ⟨other, others, rfl⟩ := List.exists_cons_of_ne_nil otherContent
  rw [List.map_cons, List.map_cons, intercalate_cons, intercalate_cons, List.append_assoc,
    List.append_assoc] at same
  obtain ⟨texts, meanings⟩ := determined part List.mem_cons_self (read other List.mem_cons_self)
    (stops_rest separates ends first _) (stops_rest separates otherEnds second _) same
  rw [texts] at same
  obtain ⟨tails, rests, indices⟩ := rest_eq separates
    (fun part member => determined part (List.mem_cons_of_mem _ member))
    (fun other member => read other (List.mem_cons_of_mem _ member)) ends otherEnds
    (List.append_cancel_left same)
  refine ⟨by rw [Prod.ext texts meanings, tails], rests, fun several => indices ?_⟩
  rintro rfl
  simp at several

/-- The keywords of connectives, between blanks, separate what no blank belongs to. -/
theorem separates_connectives (blank : keep ' ' = false) :
    Separates (fun connective : Connective => ' ' :: connective.keyword.toList ++ [' ']) keep where
  apart := by
    intro first second rest otherRest same
    cases first <;> cases second <;> simp_all [Connective.keyword]
  stops := by
    intro connective rest
    exact stops_cons blank

/-- A joined list of which nothing is left has ended. -/
theorem ends_nil (content : ∀ index, separator index ≠ []) : Ends separator keep [] where
  stops := fun _ first => nomatch first
  apart := fun index _ same => content index (List.append_eq_nil_iff.mp same.symm).1

/-- A parenthesis ends a joined list, unless it belongs to a separator. -/
theorem ends_closed (closes : keep ')' = false)
    (content : ∀ index, ∃ first others, separator index = first :: others ∧ first ≠ ')') :
    Ends separator keep (')' :: rest) where
  stops := stops_cons closes
  apart := by
    intro index tail same
    obtain ⟨first, others, leads, different⟩ := content index
    rw [leads] at same
    exact different (List.cons.inj same).1.symm

end Joined

/-- Whether a character has a meaning of its own next to names. -/
def isMark (character : Char) : Bool :=
  Text.isBlank character ||
    ['"', '\\', '\x27', '(', ')', '[', ']', ':', '=', ',', '*', '-'].contains character

/-- Whether a text can be used as the name of a field. -/
def IsName (text : List Char) : Prop :=
  text ≠ [] ∧ ∀ character ∈ text, isMark character = false

instance (text : List Char) : Decidable (IsName text) :=
  decidable_of_iff (text ≠ [] ∧ text.all (fun character => !isMark character) = true)
    (by simp [IsName])

/-- Whether a text consists of letters, digits and underscores. -/
def IsIdentifier (text : List Char) : Prop :=
  text ≠ [] ∧ ∀ character ∈ text, (character.isAlphanum || character == '_') = true

instance (text : List Char) : Decidable (IsIdentifier text) :=
  decidable_of_iff
    (text ≠ [] ∧ text.all (fun character => character.isAlphanum || character == '_') = true)
    (by rw [IsIdentifier, List.all_eq_true])

/-- Letters, digits and underscores are no marks. -/
theorem isMark_of_alphanumeric {character : Char}
    (alphanumeric : (character.isAlphanum || character == '_') = true) :
    isMark character = false := by
  have ranges : (((decide (65 ≤ character.val ∧ character.val ≤ 90) ||
      (decide (97 ≤ character.val) && decide (character.val ≤ 122))) ||
        (decide (48 ≤ character.val) && decide (character.val ≤ 57))) ||
          character == '_') = true := alphanumeric
  rw [Bool.eq_false_iff]
  intro marked
  rw [isMark, Bool.or_eq_true] at marked
  rcases marked with blank | mark
  · simp only [Text.isBlank, Text.blankRanges, List.any_cons, List.any_nil, Bool.or_false,
      Bool.or_eq_true, Bool.and_eq_true, decide_eq_true_eq] at blank
    simp only [Bool.or_eq_true, Bool.and_eq_true, decide_eq_true_eq, beq_iff_eq,
      UInt32.le_iff_toNat_le, Char.ext_iff, ← UInt32.toNat_inj] at ranges
    have number : ((65 ≤ character.toNat ∧ character.toNat ≤ 90 ∨
        97 ≤ character.toNat ∧ character.toNat ≤ 122) ∨
          48 ≤ character.toNat ∧ character.toNat ≤ 57) ∨ character.toNat = 95 := ranges
    omega
  · simp only [List.contains_iff_mem, List.mem_cons, List.not_mem_nil, or_false] at mark
    rcases mark with same | same | same | same | same | same | same | same | same | same | same |
      same <;> subst same <;> exact absurd alphanumeric (by decide)

/-- Letters, digits and underscores make a name. -/
theorem IsIdentifier.isName {text : List Char} (identifier : IsIdentifier text) : IsName text :=
  ⟨identifier.1, fun character member => isMark_of_alphanumeric (identifier.2 character member)⟩

/-- A name does not begin with a mark. -/
theorem IsName.append_ne_mark {name : List Char} {mark : Char} (named : IsName name)
    (marked : isMark mark = true) (rest otherRest : List Char) :
    name ++ rest ≠ mark :: otherRest := by
  obtain ⟨content, plain⟩ := named
  obtain ⟨first, others, rfl⟩ := List.exists_cons_of_ne_nil content
  intro same
  have unmarked := plain first List.mem_cons_self
  rw [(List.cons.inj same).1, marked] at unmarked
  exact absurd unmarked.symm Bool.false_ne_true

/-- A name ends at a mark. -/
theorem name_eq {name other rest otherRest : List Char} {mark otherMark : Char}
    (named : IsName name) (otherNamed : IsName other) (ends : isMark mark = true)
    (otherEnds : isMark otherMark = true)
    (same : name ++ mark :: rest = other ++ otherMark :: otherRest) :
    other = name ∧ otherMark = mark ∧ otherRest = rest := by
  have kept : ∀ character ∈ name, (!isMark character) = true :=
    fun character member => by simp [named.2 character member]
  have otherKept : ∀ character ∈ other, (!isMark character) = true :=
    fun character member => by simp [otherNamed.2 character member]
  obtain ⟨names, rests⟩ := run_eq kept otherKept (stops_cons (by simp [ends]))
    (stops_cons (by simp [otherEnds])) same
  exact ⟨names, List.cons.inj rests⟩

end Grammar

namespace Numeral

/-- Decimal digits, with a minus sign for what is below zero. -/
inductive Reads : List Char → Int → Prop where
  | natural {digits : List Char} (content : digits ≠ [])
      (decimal : ∀ character ∈ digits, character.isDigit = true) : Reads digits (value digits)
  | negative {digits : List Char} (content : digits ≠ [])
      (decimal : ∀ character ∈ digits, character.isDigit = true) :
      Reads ('-' :: digits) (-(value digits))

theorem isMark_of_mem_digits {number : Nat} {character : Char}
    (member : character ∈ digits number) : Grammar.isMark character = false :=
  Grammar.isMark_of_alphanumeric (by simp [Char.isAlphanum, isDigit_of_mem_digits member])

theorem digits_ne_nil (number : Nat) : digits number ≠ [] := by
  unfold digits
  split
  · exact List.cons_ne_nil _ _
  · exact List.append_ne_nil_of_right_ne_nil _ (List.cons_ne_nil _ _)

/-- The text of an integer is a numeral for it. -/
theorem reads_ofInt (number : Int) : Reads (ofInt number) number := by
  have decimal : ∀ character ∈ digits number.natAbs, character.isDigit = true :=
    fun _ member => isDigit_of_mem_digits member
  unfold ofInt
  split
  · have negative := Reads.negative (digits_ne_nil number.natAbs) decimal
    rw [value_digits] at negative
    have same : -(number.natAbs : Int) = number := by omega
    rwa [same] at negative
  · have natural := Reads.natural (digits_ne_nil number.natAbs) decimal
    rw [value_digits] at natural
    have same : (number.natAbs : Int) = number := by omega
    rwa [same] at natural

/-- Digits do not begin with a minus sign. -/
theorem append_ne_minus {digits : List Char} (content : digits ≠ [])
    (decimal : ∀ character ∈ digits, character.isDigit = true) (rest otherRest : List Char) :
    digits ++ rest ≠ '-' :: otherRest := by
  obtain ⟨first, others, rfl⟩ := List.exists_cons_of_ne_nil content
  intro same
  have minus := decimal first List.mem_cons_self
  rw [(List.cons.inj same).1] at minus
  exact absurd minus (by decide)

/-- A numeral ends where its digits end. -/
theorem determines_of_reads {text : List Char} {number : Int} (read : Reads text number) :
    Grammar.Determines Reads Char.isDigit text number := by
  intro other otherNumber rest otherRest otherRead stops otherStops same
  cases read with
  | natural content decimal =>
      cases otherRead with
      | natural otherContent otherDecimal =>
          obtain ⟨rfl, _⟩ := Grammar.run_eq decimal otherDecimal stops otherStops same
          exact ⟨rfl, rfl⟩
      | negative => exact absurd same (append_ne_minus content decimal _ _)
  | negative content decimal =>
      cases otherRead with
      | natural otherContent otherDecimal =>
          exact absurd same.symm (append_ne_minus otherContent otherDecimal _ _)
      | negative otherContent otherDecimal =>
          obtain ⟨rfl, _⟩ := Grammar.run_eq decimal otherDecimal stops otherStops
            (List.cons.inj same).2
          exact ⟨rfl, rfl⟩

end Numeral

end CatalogSearch
