import CatalogSearch.Ogc.Expression
import Mathlib.Data.List.Basic

/-!
# Items of lists

Commas outside of quotes divide a list of a filter expression into items. The items of a list that
is written from values are read back as these exactly if none of them that is written without quotes
contains a comma (`Ogc.listValues_literals_iff`).
-/

namespace CatalogSearch

namespace Ogc

/-- The items of a list, which are separated by commas outside of quotes. The list may be read from
within quotes. -/
def items : Bool → List Char → List (List Char)
  | _, [] => [[]]
  | inQuotes, character :: rest =>
      if character = ',' ∧ inQuotes = false then [] :: items false rest
      else (items (inQuotes ^^ (character == '\x27')) rest).modifyHead (character :: ·)

/-- The characters of a quoted value, in which every quote is doubled. -/
def undoubled : List Char → List Char
  | '\x27' :: '\x27' :: rest => '\x27' :: undoubled rest
  | character :: rest => character :: undoubled rest
  | [] => []

/-- The value that is written with or without quotes. -/
def unquoted : List Char → List Char
  | '\x27' :: rest => undoubled rest.dropLast
  | word => word

/-- The value of an item. Blanks in front of it do not count. -/
def itemValue (item : List Char) : String :=
  String.ofList (unquoted (item.dropWhile (· == ' ')))

/-- The values of the items of a list. -/
def listValues (text : List Char) : List String :=
  (items false text).map itemValue

/-- Quotes around the characters of a value, each of which is doubled if it is a quote. -/
def quoted (value : List Char) : List Char :=
  '\x27' :: value.flatMap quotedCharacter ++ ['\x27']

/-- A value is written with quotes where it needs them, and as it is otherwise. -/
theorem literal_eq (value : String) : literal value =
    if needsQuotes value.toList then quoted value.toList else value.toList :=
  rfl

/-- A value without need of quotes has neither quotes nor blanks. -/
theorem needsQuotes_eq_false {value : List Char} (bare : needsQuotes value = false) :
    ∀ character ∈ value, character ≠ '\x27' ∧ character ≠ ' ' := by
  intro character member
  have plain := List.any_eq_false.mp bare character member
  rw [Bool.or_eq_true, beq_iff_eq, not_or] at plain
  refine ⟨plain.2, ?_⟩
  rintro rfl
  exact plain.1 (by decide)

section Items

variable {text : List Char}

theorem items_comma (rest : List Char) : items false (',' :: rest) = [] :: items false rest :=
  rfl

/-- A quote belongs to an item, and what follows it is on its other side. -/
theorem items_quote (inQuotes : Bool) (rest : List Char) :
    items inQuotes ('\x27' :: rest) = (items (!inQuotes) rest).modifyHead ('\x27' :: ·) := by
  rw [items, if_neg (by simp)]
  simp

/-- Any other character belongs to an item, and so does a comma in quotes. -/
theorem items_other {inQuotes : Bool} {character : Char} (plain : character ≠ '\x27')
    (other : character = ',' → inQuotes = true) (rest : List Char) :
    items inQuotes (character :: rest) = (items inQuotes rest).modifyHead (character :: ·) := by
  have inside : ¬ (character = ',' ∧ inQuotes = false) := by
    rintro ⟨comma, outside⟩
    rw [other comma] at outside
    exact Bool.false_ne_true outside.symm
  rw [items, if_neg inside, beq_false_of_ne plain, Bool.xor_false]

theorem items_ne_nil (inQuotes : Bool) (text : List Char) : items inQuotes text ≠ [] := by
  induction text generalizing inQuotes with
  | nil => exact List.cons_ne_nil _ _
  | cons first rest ih =>
      rw [items]
      split
      · exact List.cons_ne_nil _ _
      · rw [ne_eq, List.modifyHead_eq_nil_iff]
        exact ih _

/-- A comma outside of quotes ends an item. -/
theorem items_word_append (bare : ∀ character ∈ text, character ≠ '\x27') (rest : List Char) :
    items false (text ++ ',' :: rest) = items false text ++ items false rest := by
  induction text with
  | nil => rfl
  | cons first text ih =>
      have plain := bare first List.mem_cons_self
      have later := ih fun character member => bare character (.tail first member)
      by_cases comma : first = ','
      · rw [comma, List.cons_append, items_comma, items_comma, later, List.cons_append]
      · rw [List.cons_append, items_other plain (absurd · comma), later,
          items_other plain (absurd · comma)]
        obtain ⟨item, others, same⟩ := List.exists_cons_of_ne_nil (items_ne_nil false text)
        rw [same]
        rfl

/-- A text without quotes has one item more than commas. -/
theorem length_items_word (bare : ∀ character ∈ text, character ≠ '\x27') :
    (items false text).length = text.count ',' + 1 := by
  induction text with
  | nil => rfl
  | cons first text ih =>
      have plain := bare first List.mem_cons_self
      have later := ih fun character member => bare character (.tail first member)
      by_cases comma : first = ','
      · rw [comma, items_comma, List.length_cons, later, List.count_cons_self]
      · rw [items_other plain (absurd · comma), List.length_modifyHead, later,
          List.count_cons_of_ne comma]

/-- A text without commas and quotes is one item. -/
theorem items_word (bare : ∀ character ∈ text, character ≠ '\x27') (whole : ',' ∉ text) :
    items false text = [text] := by
  induction text with
  | nil => rfl
  | cons first text ih =>
      have ⟨comma, later⟩ := not_or.mp fun member => whole (List.mem_cons.mpr member)
      rw [items_other (bare first List.mem_cons_self) (absurd ·.symm comma),
        ih (fun character member => bare character (.tail first member)) later]
      rfl

/-- A comma in quotes ends no item. -/
theorem items_quoted_append (value rest : List Char) : items false (quoted value ++ rest) =
    (items false rest).modifyHead (quoted value ++ ·) := by
  have inside : items true (value.flatMap quotedCharacter ++ '\x27' :: rest) =
      (items false rest).modifyHead (value.flatMap quotedCharacter ++ '\x27' :: ·) := by
    induction value with
    | nil => exact items_quote true rest
    | cons first value ih =>
        rw [List.flatMap_cons, quotedCharacter]
        split
        · simp only [List.cons_append, List.nil_append, items_quote, Bool.not_true, Bool.not_false,
            ih, List.modifyHead_modifyHead]
          rfl
        · rename_i plain
          simp only [List.cons_append, List.nil_append, items_other plain fun _ => rfl, ih,
            List.modifyHead_modifyHead]
          rfl
  have written : quoted value ++ rest =
      '\x27' :: (value.flatMap quotedCharacter ++ '\x27' :: rest) := by
    simp [quoted]
  rw [written, items_quote, Bool.not_false, inside, List.modifyHead_modifyHead]
  congr 1
  funext item
  simp [quoted]

theorem items_quoted (value : List Char) : items false (quoted value) = [quoted value] := by
  have alone := items_quoted_append value []
  rwa [List.append_nil, items, List.modifyHead_cons, List.append_nil] at alone

/-- A value is followed by its own items. -/
theorem items_literal_append (value : String) (rest : List Char) :
    items false (literal value ++ ',' :: rest) =
      items false (literal value) ++ items false rest := by
  rw [literal_eq]
  split
  · rw [items_quoted_append, items_comma, items_quoted, List.modifyHead_cons, List.append_nil,
      List.singleton_append]
  · rename_i bare
    exact items_word_append (fun character member =>
      (needsQuotes_eq_false (by simpa using bare) character member).1) rest

/-- A blank in front of a list does not count. -/
theorem listValues_blank (text : List Char) : listValues (' ' :: text) = listValues text := by
  have begun : items false (' ' :: text) = (items false text).modifyHead (' ' :: ·) :=
    items_other (by decide) (absurd · (by decide)) text
  obtain ⟨item, others, same⟩ := List.exists_cons_of_ne_nil (items_ne_nil false text)
  rw [listValues, listValues, begun, same]
  rfl

/-- The values of a list are those of its items, one after the other. -/
theorem listValues_literals {values : List String} (content : values ≠ []) :
    listValues (literals values) = values.flatMap fun value => listValues (literal value) := by
  induction values with
  | nil => exact absurd rfl content
  | cons first rest ih =>
      cases rest with
      | nil => simp [literals]
      | cons second rest =>
          have later := ih (List.cons_ne_nil _ _)
          have joined : literals (first :: second :: rest) =
              literal first ++ ',' :: ' ' :: literals (second :: rest) := by
            simp [literals, List.intercalate_cons_cons]
          rw [List.flatMap_cons, ← later, joined, ← listValues_blank (literals _), listValues,
            items_literal_append, List.map_append]
          rfl

/-- The quotes in a value are doubled and undoubled again. -/
theorem undoubled_flatMap (value : List Char) :
    undoubled (value.flatMap quotedCharacter) = value := by
  induction value with
  | nil => rfl
  | cons first rest ih =>
      rw [List.flatMap_cons, quotedCharacter]
      split
      · rename_i quote
        rw [quote, List.cons_append, List.singleton_append, undoubled, ih]
      · rename_i plain
        rw [List.singleton_append, undoubled, ih]
        exact fun _ same => absurd same plain

/-- The value of a quoted item is the one that was quoted. -/
theorem itemValue_quoted (value : List Char) :
    itemValue (quoted value) = String.ofList value := by
  have inner : (value.flatMap quotedCharacter ++ ['\x27']).dropLast =
      value.flatMap quotedCharacter := List.dropLast_concat
  have read : unquoted (quoted value) = undoubled (value.flatMap quotedCharacter) :=
    congrArg undoubled inner
  have trimmed : itemValue (quoted value) = String.ofList (unquoted (quoted value)) := rfl
  rw [trimmed, read, undoubled_flatMap]

/-- The value of an item without quotes and blanks is the item. -/
theorem itemValue_word {word : List Char}
    (bare : ∀ character ∈ word, character ≠ '\x27' ∧ character ≠ ' ') :
    itemValue word = String.ofList word := by
  cases word with
  | nil => rfl
  | cons first rest =>
      have ⟨plain, visible⟩ := bare first List.mem_cons_self
      rw [itemValue, List.dropWhile_cons_of_neg (by simpa using visible), unquoted]
      exact fun _ same => plain (List.cons.inj same).1

/-- A value is read back unless it is written as it is and contains a comma. -/
theorem listValues_literal_iff {value : String} : listValues (literal value) = [value] ↔
    needsQuotes value.toList = true ∨ ',' ∉ value.toList := by
  rw [literal_eq]
  split
  · rename_i quotes
    rw [listValues, items_quoted, List.map_singleton, itemValue_quoted, String.ofList_toList]
    exact iff_of_true rfl (.inl quotes)
  · rename_i quotes
    have bare := needsQuotes_eq_false (by simpa using quotes)
    have plain : ∀ character ∈ value.toList, character ≠ '\x27' :=
      fun character member => (bare character member).1
    refine ⟨fun same => .inr fun comma => ?_, fun whole => ?_⟩
    · have length := congrArg List.length same
      rw [listValues, List.length_map, length_items_word plain, List.length_singleton,
        Nat.add_eq_right, List.count_eq_zero] at length
      exact length comma
    · rw [listValues, items_word plain (whole.resolve_left quotes), List.map_singleton,
        itemValue_word bare, String.ofList_toList]

end Items

section Replacement

variable {α : Type} {replace : α → List α} (content : ∀ element, replace element ≠ [])

include content

/-- Elements that are each replaced by something do not get fewer. -/
theorem length_le_length_flatMap (elements : List α) :
    elements.length ≤ (elements.flatMap replace).length := by
  induction elements with
  | nil => exact Nat.le_refl 0
  | cons first rest ih =>
      have one := List.length_pos_iff.mpr (content first)
      rw [List.flatMap_cons, List.length_append, List.length_cons]
      omega

/-- Elements that are replaced by at least one each remain as they are only one by one. -/
theorem flatMap_eq_self_iff {elements : List α} :
    elements.flatMap replace = elements ↔ ∀ element ∈ elements, replace element = [element] := by
  induction elements with
  | nil => simp
  | cons first rest ih =>
      rw [List.flatMap_cons, List.forall_mem_cons, ← ih]
      constructor
      · intro same
        obtain ⟨head, tail, begun⟩ := List.exists_cons_of_ne_nil (content first)
        rw [begun, List.cons_append] at same
        obtain ⟨rfl, tails⟩ := List.cons.inj same
        have alone : tail = [] := by
          have enough := length_le_length_flatMap content rest
          have length := congrArg List.length tails
          rw [List.length_append] at length
          exact List.eq_nil_of_length_eq_zero (by omega)
        rw [alone] at begun tails
        exact ⟨begun, tails⟩
      · rintro ⟨alone, others⟩
        rw [alone, others, List.singleton_append]

end Replacement

/-- The values of a list are read back unless one of them is written as it is and contains a comma.
-/
theorem listValues_literals_iff {values : List String} (content : values ≠ []) :
    listValues (literals values) = values ↔
      ∀ value ∈ values, needsQuotes value.toList = true ∨ ',' ∉ value.toList := by
  have some (value : String) : listValues (literal value) ≠ [] := by
    rw [listValues, ne_eq, List.map_eq_nil_iff]
    exact items_ne_nil false _
  simp only [listValues_literals content, flatMap_eq_self_iff some, listValues_literal_iff]

end Ogc

end CatalogSearch
