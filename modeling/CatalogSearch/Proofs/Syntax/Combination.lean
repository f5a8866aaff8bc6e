import CatalogSearch.Proofs.Criteria.Truth
import CatalogSearch.Proofs.Syntax.Delimited
import Mathlib.Data.List.Basic

/-!
# Texts that are combined

Texts that are written one after the other have meanings, which a connective combines to one meaning
(`Grammar.Combines`).
-/

namespace CatalogSearch

namespace Grammar

variable {reads : List Char → (Document → Bool) → Prop}

/-- What is read of the value of a field by the characters of its name is read of the field. -/
theorem reads_value {text : List Char} {outcome : Option Json → Bool} (field : String)
    (read : reads text fun document => outcome (document.value? (String.ofList field.toList))) :
    reads text fun document => outcome (document.value? field) := by
  rwa [String.ofList_toList] at read

/-- Whether texts can be read and, combined by a connective, have a meaning. -/
def Combines (reads : List Char → (Document → Bool) → Prop) (connective : Connective)
    (texts : List (List Char)) (meaning : Document → Bool) : Prop :=
  ∃ parts : List (List Char × (Document → Bool)), parts.map Prod.fst = texts ∧
    (∀ part ∈ parts, reads part.1 part.2) ∧
      ∀ document, meaning document = connective.combine (parts.map fun part => part.2 document)

/-- The meaning of a single text does not depend on the connective. -/
theorem combine_singleton (connective : Connective) (value : Bool) :
    connective.combine [value] = value := by
  cases connective <;> simp [Connective.combine]

/-- Results are combined by and if all of them hold. -/
theorem combine_and {α : Type} (outcome : α → Bool) (elements : List α) :
    Connective.and.combine (elements.map outcome) = elements.all outcome := by
  rw [Connective.combine, List.all_map]
  rfl

theorem combine_or {α : Type} (outcome : α → Bool) (elements : List α) :
    Connective.or.combine (elements.map outcome) = elements.any outcome := by
  rw [Connective.combine, List.any_map]
  rfl

namespace Combines

variable {connective : Connective} {texts : List (List Char)} {meaning : Document → Bool}

theorem congr {other : Document → Bool} (combined : Combines reads connective texts meaning)
    (same : ∀ document, other document = meaning document) :
    Combines reads connective texts other := by
  obtain ⟨parts, written, read, outcome⟩ := combined
  exact ⟨parts, written, read, fun document => (same document).trans (outcome document)⟩

section Elements

variable {α : Type} {elements : List α} {outcome : α → Document → Bool}

/-- Texts that are written for elements combine to what these mean together. -/
theorem of_forall {text : α → List Char}
    (read : ∀ element ∈ elements, reads (text element) (outcome element)) :
    Combines reads connective (elements.map text) fun document =>
      connective.combine (elements.map fun element => outcome element document) := by
  refine ⟨elements.map fun element => (text element, outcome element), ?_, ?_, ?_⟩
  · rw [List.map_map]
    rfl
  · intro part member
    obtain ⟨element, inside, rfl⟩ := List.mem_map.mp member
    exact read element inside
  · intro document
    rw [List.map_map]
    rfl

/-- Texts that are written for elements that have one combine to what these mean together. -/
theorem of_filterMap {write : α → Option (List Char)}
    (read : ∀ element ∈ elements, ∃ text, write element = some text ∧
      reads text (outcome element)) :
    Combines reads connective (elements.filterMap write) fun document =>
      connective.combine (elements.map fun element => outcome element document) := by
  have written : elements.filterMap write =
      elements.map fun element => (write element).getD [] := by
    refine List.filterMap_eq_map_iff_forall_eq_some.mpr fun element member => ?_
    obtain ⟨text, some, _⟩ := read element member
    rw [some, Option.getD_some]
  rw [written]
  refine of_forall fun element member => ?_
  obtain ⟨text, some, meant⟩ := read element member
  rw [some]
  exact meant

end Elements

theorem nil : Combines reads .and [] fun _ => true :=
  ⟨[], rfl, fun _ member => absurd member List.not_mem_nil, fun _ => rfl⟩

theorem single {text : List Char} (read : reads text meaning) :
    Combines reads connective [text] meaning := by
  refine ⟨[(text, meaning)], rfl, fun part member => ?_, fun document => ?_⟩
  · rw [List.mem_singleton] at member
    rw [member]
    exact read
  · exact (combine_singleton connective _).symm

theorem append {others : List (List Char)} {other : Document → Bool}
    (first : Combines reads .and texts meaning) (second : Combines reads .and others other) :
    Combines reads .and (texts ++ others) fun document => meaning document && other document := by
  obtain ⟨parts, written, read, outcome⟩ := first
  obtain ⟨otherParts, otherWritten, otherRead, otherOutcome⟩ := second
  refine ⟨parts ++ otherParts, ?_, ?_, ?_⟩
  · rw [List.map_append, written, otherWritten]
  · intro part member
    rcases List.mem_append.mp member with front | back
    · exact read part front
    · exact otherRead part back
  · intro document
    dsimp only
    rw [outcome, otherOutcome, List.map_append]
    exact List.all_append.symm

/-- Texts that must all hold have their meanings together. -/
theorem exists_parts (combined : Combines reads .and texts meaning) :
    ∃ parts : List (List Char × (Document → Bool)), parts.map Prod.fst = texts ∧
      (∀ part ∈ parts, reads part.1 part.2) ∧
        meaning = fun document => parts.all fun part => part.2 document := by
  obtain ⟨parts, written, read, outcome⟩ := combined
  exact ⟨parts, written, read, funext fun document => (outcome document).trans (combine_and _ _)⟩

/-- What a single text says is its meaning. -/
theorem read_single {text : List Char} (combined : Combines reads connective [text] meaning) :
    reads text meaning := by
  obtain ⟨parts, written, read, outcome⟩ := combined
  obtain ⟨part, rfl, rfl⟩ := List.map_eq_singleton_iff.mp written
  have same : meaning = part.2 := by
    funext document
    rw [outcome]
    exact combine_singleton connective _
  rw [same]
  exact read part (List.mem_singleton.mpr rfl)

/-- Where nothing that is empty can be read, none of the texts is empty. -/
theorem ne_nil_of_mem (combined : Combines reads connective texts meaning)
    (content : ∀ {text meaning}, reads text meaning → text ≠ []) :
    ∀ text ∈ texts, text ≠ [] := by
  obtain ⟨parts, rfl, read, _⟩ := combined
  intro text member
  obtain ⟨part, inside, rfl⟩ := List.mem_map.mp member
  exact content (read part inside)

end Combines

/-- There are texts for elements if there are elements and each has one. -/
theorem filterMap_ne_nil {α : Type} {elements : List α} {write : α → Option (List Char)}
    (some : elements ≠ []) (content : ∀ element ∈ elements, write element ≠ none) :
    elements.filterMap write ≠ [] := by
  intro blank
  obtain ⟨element, member⟩ := List.exists_mem_of_ne_nil elements some
  exact content element member (List.filterMap_eq_nil_iff.mp blank element member)

theorem filter_eq_self {texts : List (List Char)} (content : ∀ text ∈ texts, text ≠ []) :
    (texts.filter fun text => !text.isEmpty) = texts :=
  List.filter_eq_self.mpr fun text member => by simpa using content text member

/-- Joined texts with content are not empty. -/
theorem intercalate_ne_nil {between : List Char} {texts : List (List Char)}
    (some : texts ≠ []) (content : ∀ text ∈ texts, text ≠ []) :
    between.intercalate texts ≠ [] := by
  obtain ⟨first, rest, rfl⟩ := List.exists_cons_of_ne_nil some
  rw [intercalate_cons]
  exact List.append_ne_nil_of_left_ne_nil (content first List.mem_cons_self) _

end Grammar

end CatalogSearch
