import CatalogSearch.Expansion.Basic
import Mathlib.Data.List.Forall2

/-!
# What the alternatives of a predicate are

A predicate that names no shortcuts stands for itself. The alternatives of any other are its other
conditions with the types it names itself, with each fragment, or alone when there is neither
(`Predicate.mem_alternatives_iff`). So an alternative differs from the predicate only on the fields
that shortcuts constrain and on the field that names them (`Predicate.get?_of_mem_alternatives`).
-/

namespace CatalogSearch

/-- Lists of the same length are empty alike. -/
theorem isEmpty_eq_of_forall₂ {α β : Type} {relation : α → β → Prop} {first : List α}
    {second : List β} (related : List.Forall₂ relation first second) :
    first.isEmpty = second.isEmpty := by
  cases related <;> rfl

/-- What related elements have in common is the same in both lists. -/
theorem map_eq_of_forall₂ {α β γ : Type} {relation : α → β → Prop} {first : List α}
    {second : List β} (related : List.Forall₂ relation first second) {measure : α → γ}
    {other : β → γ}
    (each : ∀ ⦃element another⦄, relation element another → measure element = other another) :
    first.map measure = second.map other := by
  rw [← List.forall₂_eq_eq_eq, List.forall₂_map_left_iff, List.forall₂_map_right_iff]
  exact related.imp each

/-- Where the same is found for elements in the same places, the same is found in all. -/
theorem filterMap_eq_of_forall₂ {α β γ : Type} {find : α → Option γ} {other : β → Option γ}
    {first : List α} {second : List β}
    (same : List.Forall₂ (fun element another => find element = other another) first second) :
    first.filterMap find = second.filterMap other := by
  induction same with
  | nil => rfl
  | cons found _ ih => rw [List.filterMap_cons, List.filterMap_cons, found, ih]

/-- A field holds the condition of its only entry. -/
theorem FieldEntries.lookup_eq_some_iff {entries : FieldEntries} (distinct : entries.names.Nodup)
    {field : String} {condition : FieldCondition} :
    entries.lookup field = some condition ↔ (field, condition) ∈ entries :=
  KeyOrder.lookup_eq_some_iff distinct

namespace Predicate

theorem get?_eq_some_iff {predicate : Predicate} {field : String} {condition : FieldCondition} :
    predicate.get? field = some condition ↔ (field, condition) ∈ predicate.entries :=
  FieldEntries.lookup_eq_some_iff predicate.distinct

/-- Setting other fields leaves a field as it was. -/
theorem get?_insertAll_of_not_mem {predicate : Predicate} {entries : FieldEntries} {field : String}
    (absent : field ∉ entries.names) : (predicate.insertAll entries).get? field =
      predicate.get? field := by
  induction entries generalizing predicate with
  | nil => rfl
  | cons entry rest ih =>
      obtain ⟨name, condition⟩ := entry
      have ⟨other, later⟩ := not_or.mp fun member => absent (List.mem_cons.mpr member)
      exact (ih later).trans (by rw [get?_insert, if_neg other])

/-- Setting different fields gives each its condition. -/
theorem get?_insertAll_of_mem {predicate : Predicate} {entries : FieldEntries}
    (distinct : entries.names.Nodup) {field : String} {condition : FieldCondition}
    (member : (field, condition) ∈ entries) :
    (predicate.insertAll entries).get? field = some condition := by
  induction entries generalizing predicate with
  | nil => exact absurd member List.not_mem_nil
  | cons entry rest ih =>
      have ⟨absent, tail⟩ := List.nodup_cons.mp distinct
      rcases List.mem_cons.mp member with rfl | later
      · apply (get?_insertAll_of_not_mem absent).trans
        rw [get?_insert, if_pos rfl]
      · exact ih tail later

/-- The entries are those whose conditions are changed. -/
theorem mem_entries_mapConditions_iff {change : String → FieldCondition → FieldCondition}
    {predicate : Predicate} {entry : String × FieldCondition} :
    entry ∈ (predicate.mapConditions change).entries ↔
      ∃ condition, (entry.1, condition) ∈ predicate.entries ∧
        entry.2 = change entry.1 condition := by
  simp only [mapConditions, List.mem_map, Prod.exists]
  constructor
  · rintro ⟨field, condition, member, rfl⟩
    exact ⟨condition, member, rfl⟩
  · rintro ⟨condition, member, same⟩
    exact ⟨entry.1, condition, member, Prod.ext rfl same.symm⟩

/-- Changing all conditions changes what every field holds. -/
theorem get?_mapConditions (change : String → FieldCondition → FieldCondition)
    (predicate : Predicate) (field : String) :
    (predicate.mapConditions change).get? field = (predicate.get? field).map (change field) := by
  apply Option.ext
  intro condition
  rw [get?_eq_some_iff, mem_entries_mapConditions_iff, Option.map_eq_some_iff]
  constructor
  · rintro ⟨original, given, same⟩
    exact ⟨original, get?_eq_some_iff.mpr given, same.symm⟩
  · rintro ⟨original, given, same⟩
    exact ⟨original, get?_eq_some_iff.mp given, same.symm⟩

/-- Expanding replaces the condition of every field. -/
theorem mem_entries_expand_iff {now : Instant} {predicate : Predicate}
    {entry : String × FieldCondition} : entry ∈ (predicate.expand now).entries ↔
      ∃ condition, (entry.1, condition) ∈ predicate.entries ∧
        entry.2 = condition.expand now entry.1 :=
  mem_entries_mapConditions_iff

/-- A field of an expanded predicate holds the expanded condition. -/
theorem get?_expand (now : Instant) (predicate : Predicate) (field : String) :
    (predicate.expand now).get? field =
      (predicate.get? field).map fun condition => condition.expand now field :=
  get?_mapConditions _ predicate field

end Predicate

/-- The field with the keywords of a type, which some fragments constrain. -/
def keywordsField : String := "typekeywords"

/-- Whether a fragment constrains types, and apart from them at most their keywords, each by texts
that are no shortcuts. -/
structure Fragment.IsRegular (fragment : Fragment) : Prop where
  distinct : (fragment.map Prod.fst).Nodup
  typed : typeField ∈ fragment.map Prod.fst
  fields : ∀ entry ∈ fragment, entry.1 = typeField ∨ entry.1 = keywordsField
  plain : ∀ entry ∈ fragment, ∀ text ∈ entry.2, Shortcut.isShortcut text = false

namespace Shortcut

/-- The fragments of a shortcut are registered under its name. -/
theorem mem_registry_of_fragments? {shortcut : String} {fragments : List Fragment}
    (registered : fragments? shortcut = some fragments) : (shortcut, fragments) ∈ registry := by
  obtain ⟨front, back, split, _⟩ := List.lookup_eq_some_iff.mp registered
  rw [split]
  exact List.mem_append_right front List.mem_cons_self

/-- The fragments of registered shortcuts are regular. -/
theorem isRegular_of_mem_fragments {shortcut : String} {fragments : List Fragment}
    (registered : fragments? shortcut = some fragments) {fragment : Fragment}
    (member : fragment ∈ fragments) : fragment.IsRegular := by
  have all : ∀ row ∈ registry, ∀ fragment ∈ row.2, (fragment.map Prod.fst).Nodup ∧
      typeField ∈ fragment.map Prod.fst ∧
        (∀ entry ∈ fragment, entry.1 = typeField ∨ entry.1 = keywordsField) ∧
          ∀ entry ∈ fragment, ∀ text ∈ entry.2, isShortcut text = false := by decide +kernel
  obtain ⟨distinct, typed, fields, plain⟩ :=
    all _ (mem_registry_of_fragments? registered) fragment member
  exact ⟨distinct, typed, fields, plain⟩

/-- A registered shortcut has fragments. -/
theorem fragments_ne_nil {shortcut : String} {fragments : List Fragment}
    (registered : fragments? shortcut = some fragments) : fragments ≠ [] := by
  have all : ∀ row ∈ registry, row.2 ≠ [] := by decide
  exact all _ (mem_registry_of_fragments? registered)

end Shortcut

/-- The texts of which a condition asks for one. -/
def FieldCondition.choices : FieldCondition → List String
  | .text value => [value]
  | .list values => values
  | .options value => (value.any.map Texts.toList).getD []
  | _ => []

namespace TypeSelection

/-- Something is left besides shortcuts exactly if one of the texts is none. -/
theorem restOf_eq_some {texts : List String} {make : List String → FieldCondition}
    {rest : FieldCondition} : restOf texts make = some rest ↔
      (texts.filter fun text => !Shortcut.isShortcut text) ≠ [] ∧
        make (texts.filter fun text => !Shortcut.isShortcut text) = rest := by
  simp only [restOf, Option.ite_none_left_eq_some, List.isEmpty_iff, Option.some.injEq, ne_eq]

/-- The types that a condition names itself are no shortcuts. -/
theorem isShortcut_of_mem_rest {condition rest : FieldCondition}
    (given : (ofCondition condition).rest = some rest) :
    ∀ text ∈ rest.choices, Shortcut.isShortcut text = false := by
  have filtered (texts : List String) :
      ∀ text ∈ texts.filter fun text => !Shortcut.isShortcut text,
        Shortcut.isShortcut text = false := by
    intro text member
    exact Bool.not_eq_true' _ ▸ (List.mem_filter.mp member).2
  cases condition with
  | text value =>
      cases shortcut : Shortcut.isShortcut value with
      | true => simp [ofCondition, shortcut] at given
      | false =>
          simp only [ofCondition, shortcut, Bool.false_eq_true, ↓reduceIte,
            Option.some.injEq] at given
          intro text member
          rw [← given] at member
          rwa [List.mem_singleton.mp member]
  | list values =>
      obtain ⟨_, rfl⟩ := restOf_eq_some.mp given
      exact filtered values
  | options value =>
      dsimp only [ofCondition] at given
      obtain ⟨_, rfl⟩ := restOf_eq_some.mp given
      exact filtered _
  | _ =>
      obtain rfl := Option.some.inj given
      exact fun text member => absurd member List.not_mem_nil

/-- What a condition asks besides its texts has no texts to choose from. -/
theorem any_constraints (condition : FieldCondition) :
    (ofCondition condition).constraints.any = none := by
  cases condition with
  | text value => simp only [ofCondition]; split <;> rfl
  | _ => rfl

end TypeSelection

namespace Predicate

/-- The predicate without the fields that name types and shortcuts. -/
def withoutTypes (predicate : Predicate) : Predicate :=
  (predicate.erase typeField).erase subFiltersField

/-- The texts of which the condition on a field asks for one. -/
def choicesOn (predicate : Predicate) (field : String) : List String :=
  ((predicate.get? field).map FieldCondition.choices).getD []

/-- The shortcuts that a predicate names, among its types and in the field for shortcuts, where the
dollar sign may be left out. -/
def shortcuts (predicate : Predicate) : List String :=
  (predicate.choicesOn typeField).filter Shortcut.isShortcut ++
    (predicate.choicesOn subFiltersField).map shortcutNamed

/-- The fragments of the registered shortcuts that a predicate names. -/
def fragments (predicate : Predicate) : List Fragment :=
  predicate.shortcuts.flatMap fun shortcut => (Shortcut.fragments? shortcut).getD []

/-- Whether a predicate has a shortcut among its types, or the field for shortcuts. -/
def NamesShortcuts (predicate : Predicate) : Prop :=
  (∃ text ∈ predicate.choicesOn typeField, Shortcut.isShortcut text = true) ∨
    predicate.contains subFiltersField = true

/-- The fragments of a predicate are those of its shortcuts. -/
theorem mem_fragments_iff {predicate : Predicate} {fragment : Fragment} :
    fragment ∈ predicate.fragments ↔ ∃ shortcut ∈ predicate.shortcuts, ∃ fragments,
      Shortcut.fragments? shortcut = some fragments ∧ fragment ∈ fragments := by
  rw [fragments, List.mem_flatMap]
  constructor
  · rintro ⟨shortcut, named, inside⟩
    cases registered : Shortcut.fragments? shortcut with
    | none =>
        rw [registered, Option.getD_none] at inside
        exact absurd inside List.not_mem_nil
    | some fragments =>
        rw [registered, Option.getD_some] at inside
        exact ⟨shortcut, named, fragments, registered, inside⟩
  · rintro ⟨shortcut, named, fragments, registered, inside⟩
    exact ⟨shortcut, named, by rwa [registered, Option.getD_some]⟩

/-- The shortcuts of a predicate are those among the texts on its type. -/
theorem shortcuts_typeSelection (predicate : Predicate) : predicate.typeSelection.shortcuts =
    (predicate.choicesOn typeField).filter Shortcut.isShortcut := by
  unfold typeSelection choicesOn
  cases predicate.get? typeField with
  | none => rfl
  | some condition =>
      cases condition with
      | text value =>
          by_cases shortcut : Shortcut.isShortcut value = true <;>
            simp [TypeSelection.ofCondition, FieldCondition.choices, shortcut]
      | _ => rfl

/-- The types that a predicate names itself are no shortcuts. -/
theorem isShortcut_of_typeSelection {predicate : Predicate} {rest : FieldCondition}
    (given : predicate.typeSelection.rest = some rest) :
    ∀ text ∈ rest.choices, Shortcut.isShortcut text = false := by
  unfold typeSelection at given
  cases held : predicate.get? typeField with
  | none =>
      rw [held] at given
      exact absurd given.symm (Option.some_ne_none rest)
  | some condition =>
      rw [held] at given
      exact TypeSelection.isShortcut_of_mem_rest given

/-- What a predicate asks of its type besides texts has no texts to choose from. -/
theorem any_constraints (predicate : Predicate) :
    predicate.typeSelection.constraints.any = none := by
  unfold typeSelection
  cases predicate.get? typeField with
  | none => rfl
  | some condition => exact TypeSelection.any_constraints condition

/-- The names on `subFilters` are those of shortcuts. -/
theorem getD_subFilters? (predicate : Predicate) : (predicate.subFilters?).getD [] =
    (predicate.choicesOn subFiltersField).map shortcutNamed := by
  unfold subFilters? choicesOn
  cases predicate.get? subFiltersField with
  | none => rfl
  | some condition => cases condition <;> rfl

/-- A predicate names shortcuts on its type or on `subFilters`. -/
theorem namesShortcuts_iff {predicate : Predicate} : predicate.NamesShortcuts ↔
    (predicate.typeSelection.shortcuts.isEmpty && (predicate.subFilters?).isNone) = false := by
  rw [shortcuts_typeSelection, Bool.and_eq_false_iff]
  apply or_congr
  · rw [List.isEmpty_eq_false_iff_exists_mem]
    simp only [List.mem_filter]
  · rw [contains, subFilters?, Option.isNone_map, Option.isNone_eq_false_iff]

/-- A predicate always has an alternative. -/
theorem alternatives_ne_nil (predicate : Predicate) : predicate.alternatives ≠ [] := by
  unfold alternatives
  dsimp only
  split
  · exact List.cons_ne_nil _ _
  · split <;> exact List.cons_ne_nil _ _

/-- A predicate that names no shortcuts stands for itself. -/
theorem alternatives_of_not_namesShortcuts {predicate : Predicate}
    (plain : ¬predicate.NamesShortcuts) : predicate.alternatives = [predicate] := by
  rw [namesShortcuts_iff, Bool.not_eq_false] at plain
  unfold alternatives
  dsimp only
  rw [plain, if_pos rfl]

/-- A predicate without `subFilters` and without a shortcut on its type names none. -/
theorem not_namesShortcuts_iff {predicate : Predicate} : ¬predicate.NamesShortcuts ↔
    predicate.get? subFiltersField = none ∧
      ∀ condition, predicate.get? typeField = some condition →
        ∀ text ∈ condition.choices, Shortcut.isShortcut text = false := by
  rw [NamesShortcuts, choicesOn, contains, not_or, Option.not_isSome_iff_eq_none, and_comm]
  apply and_congr Iff.rfl
  cases predicate.get? typeField with
  | none => simp
  | some condition => simp

/-- The alternatives of the choices that a predicate names: its own types, and every fragment. -/
def namedAlternatives (predicate : Predicate) : List Predicate :=
  predicate.typeSelection.rest.toList.map (predicate.withoutTypes.insert typeField) ++
    predicate.fragments.map
      (predicate.withoutTypes.applyFragment predicate.typeSelection.constraints)

/-- A predicate that names shortcuts stands for its choices, or without any for what remains. -/
theorem alternatives_of_namesShortcuts {predicate : Predicate} (names : predicate.NamesShortcuts) :
    predicate.alternatives = if predicate.namedAlternatives.isEmpty then
        [predicate.withoutTypes.withConstraints predicate.typeSelection.constraints]
      else predicate.namedAlternatives := by
  have given : predicate.fragments = (predicate.typeSelection.shortcuts ++
      (predicate.subFilters?).getD []).flatMap fun shortcut =>
        (Shortcut.fragments? shortcut).getD [] := by
    rw [shortcuts_typeSelection, getD_subFilters?]
    rfl
  rw [namesShortcuts_iff] at names
  unfold alternatives
  dsimp only
  rw [names, if_neg Bool.false_ne_true, ← given, ← withoutTypes, ← namedAlternatives]
  cases predicate.namedAlternatives <;> rfl

/-- The alternatives of a predicate that names shortcuts are its other conditions with the types it
names itself, with each fragment, or with the constraints alone when there is neither. -/
theorem mem_alternatives_iff {predicate alternative : Predicate}
    (names : predicate.NamesShortcuts) : alternative ∈ predicate.alternatives ↔
      (∃ rest, predicate.typeSelection.rest = some rest ∧
        alternative = predicate.withoutTypes.insert typeField rest) ∨
      (∃ fragment ∈ predicate.fragments, alternative =
        predicate.withoutTypes.applyFragment predicate.typeSelection.constraints fragment) ∨
      (predicate.typeSelection.rest = none ∧ predicate.fragments = [] ∧ alternative =
        predicate.withoutTypes.withConstraints predicate.typeSelection.constraints) := by
  rw [alternatives_of_namesShortcuts names, namedAlternatives]
  cases predicate.typeSelection.rest with
  | some rest =>
      simp only [Option.toList_some, List.map_cons, List.map_nil, List.cons_append,
        List.nil_append, List.isEmpty_cons, Bool.false_eq_true, ↓reduceIte, List.mem_cons,
        List.mem_map, Option.some.injEq, exists_eq_left', reduceCtorEq, false_and, or_false,
        eq_comm]
  | none =>
      simp only [Option.toList_none, List.map_nil, List.nil_append, reduceCtorEq, false_and,
        exists_false, false_or, true_and]
      cases predicate.fragments with
      | nil => simp
      | cons first others => simp [eq_comm]

/-- Where an alternative comes from: it is the predicate itself, or the other conditions with the
types that the predicate names, with a fragment of a shortcut, or with the constraints alone. -/
theorem origin_of_mem_alternatives {predicate alternative : Predicate}
    (member : alternative ∈ predicate.alternatives) :
    alternative = predicate ∨
      (∃ rest, predicate.typeSelection.rest = some rest ∧
        alternative = predicate.withoutTypes.insert typeField rest) ∨
      (∃ fragment ∈ predicate.fragments, alternative =
        predicate.withoutTypes.applyFragment predicate.typeSelection.constraints fragment) ∨
      alternative = predicate.withoutTypes.withConstraints predicate.typeSelection.constraints := by
  by_cases names : predicate.NamesShortcuts
  · exact .inr ((mem_alternatives_iff names).mp member |>.imp_right (Or.imp_right (·.2.2)))
  · rw [alternatives_of_not_namesShortcuts names, List.mem_singleton] at member
    exact .inl member

/-- The fragments of a predicate are regular. -/
theorem isRegular_of_mem_fragments {predicate : Predicate} {fragment : Fragment}
    (member : fragment ∈ predicate.fragments) : fragment.IsRegular := by
  obtain ⟨shortcut, _, fragments, registered, inside⟩ := mem_fragments_iff.mp member
  exact Shortcut.isRegular_of_mem_fragments registered inside

/-- Whether shortcuts leave the conditions on a field alone. -/
def IsOrdinary (field : String) : Prop :=
  field ≠ typeField ∧ field ≠ keywordsField ∧ field ≠ subFiltersField

/-- Removing the types removes the type and `subFilters`, and nothing else. -/
theorem get?_withoutTypes (predicate : Predicate) (field : String) :
    predicate.withoutTypes.get? field =
      if field = typeField ∨ field = subFiltersField then none else predicate.get? field := by
  rw [withoutTypes, get?_erase, get?_erase]
  by_cases names : field = subFiltersField <;> simp [names]

/-- Removing the types leaves what other fields hold. -/
theorem get?_withoutTypes_of_isOrdinary {predicate : Predicate} {field : String}
    (ordinary : IsOrdinary field) : predicate.withoutTypes.get? field = predicate.get? field := by
  rw [get?_withoutTypes, if_neg (not_or.mpr ⟨ordinary.1, ordinary.2.2⟩)]

/-- Constraints are put on the type if there are any, and on no other field. -/
theorem get?_withConstraints (predicate : Predicate) (constraints : MatchOptions) (field : String) :
    (predicate.withConstraints constraints).get? field =
      if field = typeField ∧ constraints.isEmpty = false then some (.options constraints)
      else predicate.get? field := by
  unfold withConstraints
  cases constraints.isEmpty with
  | true => simp
  | false => simp [get?_insert]

/-- Constraints leave what other fields hold. -/
theorem get?_withConstraints_of_ne (predicate : Predicate) (constraints : MatchOptions)
    {field : String} (other : field ≠ typeField) :
    (predicate.withConstraints constraints).get? field = predicate.get? field := by
  rw [get?_withConstraints, if_neg fun both => other both.1]

section Fragments

variable {predicate : Predicate} {constraints : MatchOptions} {fragment : Fragment}

/-- A regular fragment takes up the constraints in its own condition on types. -/
theorem applyFragment_of_isRegular (regular : fragment.IsRegular) :
    predicate.applyFragment constraints fragment = predicate.insertAll
      (fragment.map fun (field, texts) => (field, fragmentCondition constraints field texts)) := by
  have typed : (fragment.map Prod.fst).contains typeField = true :=
    List.contains_iff_mem.mpr regular.typed
  rw [applyFragment, if_pos typed]

/-- The conditions of a fragment are on its fields. -/
theorem names_conditions (constraints : MatchOptions) (fragment : Fragment) :
    FieldEntries.names (fragment.map fun (field, texts) =>
      (field, fragmentCondition constraints field texts)) = fragment.map Prod.fst := by
  rw [FieldEntries.names, List.map_map]
  rfl

/-- A fragment replaces the conditions on its fields. -/
theorem get?_applyFragment_of_mem (regular : fragment.IsRegular) {entry : String × List String}
    (member : entry ∈ fragment) : (predicate.applyFragment constraints fragment).get? entry.1 =
      some (fragmentCondition constraints entry.1 entry.2) := by
  rw [applyFragment_of_isRegular regular]
  apply get?_insertAll_of_mem
  · rw [names_conditions]
    exact regular.distinct
  · exact List.mem_map.mpr ⟨entry, member, rfl⟩

/-- A fragment leaves the conditions on other fields. -/
theorem get?_applyFragment_of_not_mem (regular : fragment.IsRegular) {field : String}
    (absent : field ∉ fragment.map Prod.fst) :
    (predicate.applyFragment constraints fragment).get? field = predicate.get? field := by
  rw [applyFragment_of_isRegular regular]
  apply get?_insertAll_of_not_mem
  rw [names_conditions]
  exact absent

/-- Applying a fragment leaves what fields other than its own hold. -/
theorem get?_applyFragment (regular : fragment.IsRegular) {field : String}
    (ordinary : IsOrdinary field) :
    (predicate.applyFragment constraints fragment).get? field = predicate.get? field := by
  apply get?_applyFragment_of_not_mem regular
  intro inside
  obtain ⟨entry, constrained, rfl⟩ := List.mem_map.mp inside
  rcases regular.fields entry constrained with type | keywords
  · exact ordinary.1 type
  · exact ordinary.2.1 keywords

end Fragments

/-- Every alternative has the conditions of the predicate on the fields that shortcuts leave alone.
-/
theorem get?_of_mem_alternatives {predicate alternative : Predicate}
    (member : alternative ∈ predicate.alternatives) {field : String}
    (ordinary : IsOrdinary field) : alternative.get? field = predicate.get? field := by
  rcases origin_of_mem_alternatives member with same | ⟨rest, _, same⟩ |
    ⟨fragment, inside, same⟩ | same
  · rw [same]
  · rw [same, get?_insert, if_neg ordinary.1, get?_withoutTypes_of_isOrdinary ordinary]
  · rw [same, get?_applyFragment (isRegular_of_mem_fragments inside) ordinary,
      get?_withoutTypes_of_isOrdinary ordinary]
  · rw [same, get?_withConstraints_of_ne _ _ ordinary.1, get?_withoutTypes_of_isOrdinary ordinary]

section Relations

variable {relation : Predicate → Predicate → Prop}
  (insert : ∀ ⦃first second⦄, relation first second → ∀ field condition,
    relation (first.insert field condition) (second.insert field condition))

include insert

/-- A relation that setting a field keeps is kept by setting several. -/
theorem insertAll_related {first second : Predicate} (related : relation first second)
    (entries : FieldEntries) : relation (first.insertAll entries) (second.insertAll entries) := by
  induction entries generalizing first second with
  | nil => exact related
  | cons entry rest ih => exact ih (insert related entry.1 entry.2)

/-- A relation that setting a field keeps is kept by putting on constraints. -/
theorem withConstraints_related {first second : Predicate} (related : relation first second)
    (constraints : MatchOptions) :
    relation (first.withConstraints constraints) (second.withConstraints constraints) := by
  unfold withConstraints
  split
  · exact related
  · exact insert related typeField (.options constraints)

/-- A relation that setting a field keeps is kept by applying a fragment. -/
theorem applyFragment_related {first second : Predicate} (related : relation first second)
    (constraints : MatchOptions) (fragment : Fragment) :
    relation (first.applyFragment constraints fragment)
      (second.applyFragment constraints fragment) := by
  have extended := insertAll_related insert related (fragment.map fun (field, texts) =>
    (field, fragmentCondition constraints field texts))
  unfold applyFragment
  dsimp only
  split
  · exact extended
  · exact withConstraints_related insert extended constraints

/-- Predicates with the same conditions on types and shortcuts have alternatives that are related
one by one, if the relation is kept when these are removed and when other conditions are set. -/
theorem forall₂_alternatives {first second : Predicate} (related : relation first second)
    (bases : relation first.withoutTypes second.withoutTypes)
    (types : first.get? typeField = second.get? typeField)
    (names : first.get? subFiltersField = second.get? subFiltersField) :
    List.Forall₂ relation first.alternatives second.alternatives := by
  have selections : first.typeSelection = second.typeSelection := by
    rw [typeSelection, types, typeSelection]
  have fragments : first.fragments = second.fragments := by
    simp only [Predicate.fragments, shortcuts, choicesOn, types, names]
  have naming : first.NamesShortcuts ↔ second.NamesShortcuts := by
    simp only [NamesShortcuts, choicesOn, contains, types, names]
  by_cases named : first.NamesShortcuts
  · have listed : List.Forall₂ relation first.namedAlternatives second.namedAlternatives := by
      rw [namedAlternatives, namedAlternatives, selections, fragments]
      refine List.rel_append ?_ ?_
      · rw [List.forall₂_map_left_iff, List.forall₂_map_right_iff]
        exact List.forall₂_same.mpr fun rest _ => insert bases typeField rest
      · rw [List.forall₂_map_left_iff, List.forall₂_map_right_iff]
        exact List.forall₂_same.mpr fun fragment _ => applyFragment_related insert bases _ fragment
    rw [alternatives_of_namesShortcuts named, alternatives_of_namesShortcuts (naming.mp named),
      isEmpty_eq_of_forall₂ listed, selections]
    split
    · exact .cons (withConstraints_related insert bases _) .nil
    · exact listed
  · rw [alternatives_of_not_namesShortcuts named,
      alternatives_of_not_namesShortcuts fun others => named (naming.mpr others)]
    exact .cons related .nil

end Relations

end Predicate

end CatalogSearch
