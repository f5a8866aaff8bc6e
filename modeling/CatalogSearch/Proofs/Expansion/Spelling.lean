import CatalogSearch.Proofs.Expansion.Fields

/-!
# Spellings of a condition

A condition that asks for one of a list of texts can be spelled as a text, as a list or as match
options, and the parts of match options as single texts or as lists. Names of shortcuts may leave
out the dollar sign in the field that is for them. Every query has a full spelling, which it shares
with all queries that are spelled alike (`Query.SpelledAlike.spelled_eq`), and spelling out a query
spells out the filters that replace its own (`Filter.restructure_spelled`).
-/

namespace CatalogSearch

/-- Whether two texts of a condition count as the same: equal ones, and in the field for shortcuts a
name with the dollar sign and without. -/
inductive SameText (field : String) : String → String → Prop where
  | same (text : String) : SameText field text text
  | marked {name : String} (names : field = subFiltersField)
      (bare : Shortcut.isShortcut name = false) : SameText field name ("$" ++ name)
  | unmarked {name : String} (names : field = subFiltersField)
      (bare : Shortcut.isShortcut name = false) : SameText field ("$" ++ name) name

/-- Whether options have the same parts with the same texts, as single texts or as lists. -/
structure MatchOptions.SpelledAlike (field : String) (first second : MatchOptions) : Prop where
  any : Option.Rel (fun texts others =>
    List.Forall₂ (SameText field) texts.toList others.toList) first.any second.any
  all : first.all.map Texts.toList = second.all.map Texts.toList
  not : first.not.map Texts.toList = second.not.map Texts.toList
  exact : first.exact.map Texts.toList = second.exact.map Texts.toList

/-- The texts of a condition that asks for one of them and for nothing else. -/
def FieldCondition.listed? : FieldCondition → Option (List String)
  | .text value => some [value]
  | .list values => some values
  | .options ⟨some texts, none, none, none⟩ => some texts.toList
  | _ => none

/-- Whether two conditions on a field are the same, or spell the same condition on a field that is
matched. -/
inductive FieldCondition.SpelledAlike (field : String) :
    FieldCondition → FieldCondition → Prop where
  | same (condition : FieldCondition) : SpelledAlike field condition condition
  | listed {first second : FieldCondition} {texts others : List String}
      (matching : FieldKind.ofName field = .matching) (mine : first.listed? = some texts)
      (theirs : second.listed? = some others) (same : List.Forall₂ (SameText field) texts others) :
      SpelledAlike field first second
  | options {first second : MatchOptions} (matching : FieldKind.ofName field = .matching)
      (alike : first.SpelledAlike field second) :
      SpelledAlike field (.options first) (.options second)

/-- Whether predicates constrain the same fields in the same order, by conditions that are spelled
alike. -/
def Predicate.SpelledAlike (first second : Predicate) : Prop :=
  List.Forall₂ (fun entry other => entry.1 = other.1 ∧
    FieldCondition.SpelledAlike entry.1 entry.2 other.2) first.entries second.entries

/-- Whether two filters have predicates that are spelled alike, in one order. -/
structure Filter.SpelledAlike (first second : Filter) : Prop where
  connective : first.connective = second.connective
  predicates : List.Forall₂ Predicate.SpelledAlike first.predicates second.predicates

/-- Whether two queries have filters that are spelled alike, in one order. -/
structure Query.SpelledAlike (first second : Query) : Prop where
  target : first.target = second.target
  filters : List.Forall₂ Filter.SpelledAlike first.filters second.filters

/-- A text as it is spelled out: in the field for shortcuts with the dollar sign. -/
def spelledText (field text : String) : String :=
  if field = subFiltersField then Predicate.shortcutNamed text else text

/-- The same texts as a list. -/
def Texts.spelled (texts : Texts) : Texts :=
  .many texts.toList

/-- The options with lists for all parts. -/
def MatchOptions.spelled (field : String) (options : MatchOptions) : MatchOptions where
  any := options.any.map fun texts => .many (texts.toList.map (spelledText field))
  all := options.all.map Texts.spelled
  not := options.not.map Texts.spelled
  exact := options.exact.map Texts.spelled

/-- The full spelling of a condition: match options with lists, where the field is matched. -/
def FieldCondition.spelled (field : String) (condition : FieldCondition) : FieldCondition :=
  match FieldKind.ofName field, condition with
  | .matching, .text value => .options (.ofAny [spelledText field value])
  | .matching, .list values => .options (.ofAny (values.map (spelledText field)))
  | .matching, .options value => .options (value.spelled field)
  | _, other => other

/-- The predicate with all its conditions in one spelling. -/
def Predicate.spelled (predicate : Predicate) : Predicate :=
  predicate.mapConditions FieldCondition.spelled

/-- The filter with all its predicates in one spelling. -/
def Filter.spelled (filter : Filter) : Filter :=
  filter.mapPredicates Predicate.spelled

/-- The query with all its filters in one spelling. -/
def Query.spelled (query : Query) : Query :=
  ⟨query.target, query.filters.map Filter.spelled⟩

section Alike

/-- Names with a dollar sign are left as they are. -/
theorem Predicate.shortcutNamed_marked (name : String) :
    shortcutNamed ("$" ++ name) = "$" ++ name := by
  have marked : Shortcut.isShortcut ("$" ++ name) = true := by
    rw [Shortcut.isShortcut, String.toList_append]
    rfl
  rw [shortcutNamed, if_pos marked]

/-- A bare name stands for the shortcut with a dollar sign. -/
theorem Predicate.shortcutNamed_bare {name : String} (bare : Shortcut.isShortcut name = false) :
    shortcutNamed name = "$" ++ name := by
  rw [shortcutNamed, if_neg (by rw [bare]; exact Bool.false_ne_true)]

variable {field : String}

/-- Texts that are the same have one spelling. -/
theorem SameText.spelled_eq {first second : String} (same : SameText field first second) :
    spelledText field first = spelledText field second := by
  cases same with
  | same text => rfl
  | marked names bare =>
      rw [spelledText, if_pos names, spelledText, if_pos names, Predicate.shortcutNamed_marked,
        Predicate.shortcutNamed_bare bare]
  | unmarked names bare =>
      rw [spelledText, if_pos names, spelledText, if_pos names, Predicate.shortcutNamed_marked,
        Predicate.shortcutNamed_bare bare]

/-- Lists of texts that are the same have one spelling. -/
theorem map_spelledText_eq {texts others : List String}
    (same : List.Forall₂ (SameText field) texts others) :
    texts.map (spelledText field) = others.map (spelledText field) :=
  map_eq_of_forall₂ same fun _ _ => SameText.spelled_eq

/-- Options that are spelled alike have one spelling. -/
theorem MatchOptions.SpelledAlike.spelled_eq {first second : MatchOptions}
    (alike : first.SpelledAlike field second) : first.spelled field = second.spelled field := by
  have part {mine theirs : Option Texts} (same : mine.map Texts.toList = theirs.map Texts.toList) :
      mine.map Texts.spelled = theirs.map Texts.spelled := by
    have listed := congrArg (Option.map Texts.many) same
    rwa [Option.map_map, Option.map_map] at listed
  have choices {mine theirs : Option Texts} (same : Option.Rel (fun texts others =>
      List.Forall₂ (SameText field) texts.toList others.toList) mine theirs) :
      mine.map (fun texts => Texts.many (texts.toList.map (spelledText field))) =
        theirs.map fun texts => Texts.many (texts.toList.map (spelledText field)) := by
    cases same with
    | none => rfl
    | some same => exact congrArg (fun texts => some (Texts.many texts)) (map_spelledText_eq same)
  rw [spelled, choices alike.any, part alike.all, part alike.not, part alike.exact, spelled]

/-- A text, a list and options with one part have the spelling of options. -/
theorem FieldCondition.spelled_of_listed? (matching : FieldKind.ofName field = .matching)
    {condition : FieldCondition} {texts : List String} (listed : condition.listed? = some texts) :
    condition.spelled field = .options (.ofAny (texts.map (spelledText field))) := by
  unfold listed? at listed
  unfold spelled
  rw [matching]
  split at listed <;> cases listed <;> rfl

/-- Conditions that are spelled alike have one spelling. -/
theorem FieldCondition.SpelledAlike.spelled_eq {first second : FieldCondition}
    (alike : FieldCondition.SpelledAlike field first second) :
    first.spelled field = second.spelled field := by
  cases alike with
  | same => rfl
  | listed matching mine theirs same =>
      rw [spelled_of_listed? matching mine, spelled_of_listed? matching theirs,
        map_spelledText_eq same]
  | options matching alike =>
      simp only [spelled, matching, alike.spelled_eq]

/-- Predicates that are spelled alike have one spelling. -/
theorem Predicate.SpelledAlike.spelled_eq {first second : Predicate}
    (alike : first.SpelledAlike second) : first.spelled = second.spelled := by
  refine eq_of_entries (map_eq_of_forall₂ alike ?_)
  rintro ⟨name, condition⟩ ⟨_, other⟩ ⟨rfl, conditions⟩
  exact Prod.ext rfl conditions.spelled_eq

/-- Filters that are spelled alike have one spelling. -/
theorem Filter.SpelledAlike.spelled_eq {first second : Filter} (alike : first.SpelledAlike second) :
    first.spelled = second.spelled := by
  rw [Filter.spelled, mapPredicates, alike.connective,
    map_eq_of_forall₂ alike.predicates fun _ _ => Predicate.SpelledAlike.spelled_eq]
  rfl

/-- Queries that are spelled alike have the same full spelling. -/
theorem Query.SpelledAlike.spelled_eq {first second : Query} (alike : first.SpelledAlike second) :
    first.spelled = second.spelled := by
  rw [spelled, alike.target,
    map_eq_of_forall₂ alike.filters fun _ _ => Filter.SpelledAlike.spelled_eq, spelled]

end Alike

/-! ### Changing conditions one by one -/

section Changes

variable (change : String → FieldCondition → FieldCondition)

/-- An entry is set before or after all conditions are changed. -/
theorem FieldEntries.map_set (field : String) (condition : FieldCondition)
    (entries : FieldEntries) :
    (set field condition entries).2.map (fun entry => (entry.1, change entry.1 entry.2)) =
      (set field (change field condition)
        (entries.map fun entry => (entry.1, change entry.1 entry.2))).2 := by
  induction entries with
  | nil => rfl
  | cons entry rest ih =>
      obtain ⟨name, present⟩ := entry
      by_cases same : name = field <;> simp [set, same, ih]

/-- An entry is removed before or after all conditions are changed. -/
theorem FieldEntries.map_unset (field : String) (entries : FieldEntries) :
    (unset field entries).2.map (fun entry => (entry.1, change entry.1 entry.2)) =
      (unset field (entries.map fun entry => (entry.1, change entry.1 entry.2))).2 := by
  induction entries with
  | nil => rfl
  | cons entry rest ih =>
      obtain ⟨name, present⟩ := entry
      by_cases same : name = field <;> simp [unset, same, ih]

namespace Predicate

/-- A field is set before or after all conditions are changed. -/
theorem mapConditions_insert (predicate : Predicate) (field : String) (condition : FieldCondition) :
    (predicate.insert field condition).mapConditions change =
      (predicate.mapConditions change).insert field (change field condition) :=
  eq_of_entries (FieldEntries.map_set change field condition predicate.entries)

/-- The types are removed before or after all conditions are changed. -/
theorem mapConditions_withoutTypes (predicate : Predicate) :
    predicate.withoutTypes.mapConditions change =
      (predicate.mapConditions change).withoutTypes := by
  have erased (predicate : Predicate) (field : String) :
      (predicate.erase field).mapConditions change = (predicate.mapConditions change).erase field :=
    eq_of_entries (FieldEntries.map_unset change field predicate.entries)
  rw [withoutTypes, erased, erased, withoutTypes]

/-- Entries are set before or after all conditions are changed. -/
theorem mapConditions_insertAll (predicate : Predicate) (entries : FieldEntries) :
    (predicate.insertAll entries).mapConditions change = (predicate.mapConditions change).insertAll
      (entries.map fun entry => (entry.1, change entry.1 entry.2)) := by
  induction entries generalizing predicate with
  | nil => rfl
  | cons entry rest ih =>
      have first := mapConditions_insert change predicate entry.1 entry.2
      have later := ih (predicate.insert entry.1 entry.2)
      rw [first] at later
      exact later

end Predicate

end Changes

/-! ### Spelling out alternatives -/

/-- Only the texts on `subFilters` have different spellings. -/
theorem spelledText_of_ne {field : String} (other : field ≠ subFiltersField) (text : String) :
    spelledText field text = text :=
  if_neg other

theorem map_spelledText_of_ne {field : String} (other : field ≠ subFiltersField)
    (texts : List String) : texts.map (spelledText field) = texts := by
  rw [List.map_congr_left fun text _ => spelledText_of_ne other text, List.map_id']

theorem typeField_ne_subFiltersField : typeField ≠ subFiltersField := by
  decide

namespace MatchOptions

theorem spelled_ofAny (field : String) (texts : List String) :
    (ofAny texts).spelled field = ofAny (texts.map (spelledText field)) :=
  rfl

theorem isEmpty_spelled (field : String) (options : MatchOptions) :
    (options.spelled field).isEmpty = options.isEmpty := by
  simp only [isEmpty, spelled, Option.isNone_map]

end MatchOptions

namespace TypeSelection

/-- The selection with its conditions spelled out. -/
def spelled (selection : TypeSelection) : TypeSelection where
  shortcuts := selection.shortcuts
  rest := selection.rest.map (FieldCondition.spelled typeField)
  constraints := selection.constraints.spelled typeField

/-- What is left besides shortcuts is spelled like the texts that are left. -/
theorem map_spelled_restOf {texts : List String}
    {make other : List String → FieldCondition}
    (same : ∀ own, (make own).spelled typeField = other own) :
    (restOf texts make).map (FieldCondition.spelled typeField) = restOf texts other := by
  unfold restOf
  dsimp only
  split
  · rfl
  · rw [Option.map_some, same]

/-- A condition on types can be spelled out before or after it is split. -/
theorem ofCondition_spelled (condition : FieldCondition) :
    ofCondition (condition.spelled typeField) = (ofCondition condition).spelled := by
  have kept := map_spelledText_of_ne typeField_ne_subFiltersField
  cases condition with
  | text value =>
      have spelled : (FieldCondition.text value).spelled typeField = .options (.ofAny [value]) :=
        rfl
      rw [spelled]
      cases shortcut : Shortcut.isShortcut value <;>
        simp [ofCondition, MatchOptions.ofAny, MatchOptions.empty, Texts.toList, restOf, shortcut,
          TypeSelection.spelled, MatchOptions.spelled, spelled]
  | list values =>
      have spelled (values : List String) :
          (FieldCondition.list values).spelled typeField = .options (.ofAny values) :=
        congrArg (fun texts => FieldCondition.options (.ofAny texts)) (kept values)
      rw [spelled]
      exact congrArg (TypeSelection.mk _ · _) (map_spelled_restOf spelled).symm
  | options value =>
      have spelled (own : List String) :
          (FieldCondition.options { value with any := some (.many own) }).spelled typeField =
            .options { value.spelled typeField with any := some (.many own) } :=
        congrArg (fun texts => FieldCondition.options
          { value.spelled typeField with any := some (.many texts) }) (kept own)
      have texts : (((value.spelled typeField).any.map Texts.toList).getD []) =
          (value.any.map Texts.toList).getD [] := by
        cases asked : value.any with
        | none => simp [MatchOptions.spelled, asked]
        | some texts =>
            simpa [MatchOptions.spelled, asked, Texts.toList] using kept texts.toList
      have split : ofCondition (.options (value.spelled typeField)) =
          ⟨((value.any.map Texts.toList).getD []).filter Shortcut.isShortcut,
            restOf ((value.any.map Texts.toList).getD []) fun own =>
              .options { value.spelled typeField with any := some (.many own) },
            { value.spelled typeField with any := none }⟩ := by
        rw [← texts]
        rfl
      refine split.trans ?_
      rw [← map_spelled_restOf spelled]
      rfl
  | _ => rfl

end TypeSelection

namespace FieldCondition

/-- A condition outside the field for shortcuts expands to the same when it is spelled out, except
that match options are spelled out. -/
theorem expand_spelled {field : String} (other : field ≠ subFiltersField)
    (condition : FieldCondition) (now : Instant) :
    (condition.spelled field).expand now field = condition.expand now field ∨
      FieldKind.ofName field = .matching ∧
        ∃ options, condition.expand now field = .options options ∧
          (condition.spelled field).expand now field = .options (options.spelled field) := by
  cases kind : FieldKind.ofName field with
  | matching =>
      cases condition with
      | text value => exact .inl (by simp only [spelled, expand, kind, spelledText_of_ne other])
      | list values =>
          exact .inl (by simp only [spelled, expand, kind, map_spelledText_of_ne other])
      | options value => exact .inr ⟨rfl, value, by simp only [spelled, expand, kind, and_self]⟩
      | _ => exact .inl (by simp only [spelled, kind])
  | _ => exact .inl (by simp only [spelled, kind])

/-- The choices of a condition on a field that is matched are spelled out one by one. -/
theorem choices_spelled {field : String} (matching : FieldKind.ofName field = .matching)
    (condition : FieldCondition) :
    (condition.spelled field).choices = condition.choices.map (spelledText field) := by
  unfold spelled
  rw [matching]
  cases condition with
  | options value =>
      cases asked : value.any <;> simp [choices, MatchOptions.spelled, asked, Texts.toList]
  | _ => rfl

end FieldCondition

namespace Predicate

variable (predicate : Predicate)

theorem get?_spelled (field : String) : predicate.spelled.get? field =
    (predicate.get? field).map (FieldCondition.spelled field) :=
  get?_mapConditions _ predicate field

/-- The texts to choose from are those in one spelling. -/
theorem choicesOn_spelled {field : String} (matching : FieldKind.ofName field = .matching) :
    predicate.spelled.choicesOn field = (predicate.choicesOn field).map (spelledText field) := by
  unfold choicesOn
  rw [get?_spelled]
  cases predicate.get? field with
  | none => rfl
  | some condition => exact condition.choices_spelled matching

/-- What is asked of the type is asked in one spelling. -/
theorem typeSelection_spelled :
    predicate.spelled.typeSelection = predicate.typeSelection.spelled := by
  unfold typeSelection
  rw [get?_spelled]
  cases predicate.get? typeField with
  | none => rfl
  | some condition => exact TypeSelection.ofCondition_spelled condition

theorem choicesOn_spelled_typeField :
    predicate.spelled.choicesOn typeField = predicate.choicesOn typeField := by
  rw [choicesOn_spelled predicate rfl, map_spelledText_of_ne typeField_ne_subFiltersField]

/-- A name for a shortcut that has been spelled out is complete. -/
theorem shortcutNamed_spelledText (name : String) :
    shortcutNamed (spelledText subFiltersField name) = shortcutNamed name := by
  rw [spelledText, if_pos rfl]
  cases bare : Shortcut.isShortcut name with
  | true =>
      have complete : shortcutNamed name = name := if_pos bare
      rw [complete, complete]
  | false => rw [shortcutNamed_bare bare, shortcutNamed_marked]

/-- Spelling does not change the fragments of a predicate. -/
theorem fragments_spelled : predicate.spelled.fragments = predicate.fragments := by
  have names : (predicate.spelled.choicesOn subFiltersField).map shortcutNamed =
      (predicate.choicesOn subFiltersField).map shortcutNamed := by
    rw [choicesOn_spelled predicate rfl, List.map_map]
    exact List.map_congr_left fun name _ => shortcutNamed_spelledText name
  rw [fragments, shortcuts, choicesOn_spelled_typeField, names, fragments, shortcuts]

/-- Spelling does not change whether a predicate names shortcuts. -/
theorem namesShortcuts_spelled : predicate.spelled.NamesShortcuts ↔ predicate.NamesShortcuts := by
  rw [NamesShortcuts, NamesShortcuts, choicesOn_spelled_typeField, contains, contains,
    get?_spelled, Option.isSome_map]

/-- Constraints are put on before or after spelling. -/
theorem spelled_withConstraints (constraints : MatchOptions) :
    (predicate.withConstraints constraints).spelled =
      predicate.spelled.withConstraints (constraints.spelled typeField) := by
  unfold withConstraints
  rw [MatchOptions.isEmpty_spelled]
  split
  · rfl
  · exact mapConditions_insert _ predicate typeField (.options constraints)

/-- A fragment asks for the same when its constraints are spelled out. -/
theorem spelled_fragmentCondition {field : String} (matching : FieldKind.ofName field = .matching)
    (other : field ≠ subFiltersField) (constraints : MatchOptions) (texts : List String) :
    (fragmentCondition constraints field texts).spelled field =
      fragmentCondition (constraints.spelled typeField) field texts := by
  have kept := map_spelledText_of_ne other texts
  unfold fragmentCondition
  split
  · rename_i types
    subst types
    exact congrArg (fun texts => FieldCondition.options
      { constraints.spelled typeField with any := some (.many texts) }) kept
  · simp only [FieldCondition.spelled, matching, MatchOptions.spelled_ofAny, kept]

/-- A fragment is applied before or after spelling. -/
theorem spelled_applyFragment (constraints : MatchOptions) {fragment : Fragment}
    (regular : fragment.IsRegular) : (predicate.applyFragment constraints fragment).spelled =
      predicate.spelled.applyFragment (constraints.spelled typeField) fragment := by
  rw [applyFragment_of_isRegular regular, applyFragment_of_isRegular regular]
  refine (mapConditions_insertAll _ predicate _).trans ?_
  congr 1
  rw [List.map_map]
  refine List.map_congr_left fun entry constrained => Prod.ext rfl ?_
  -- A fragment constrains types and keywords, both of them matched and free of shortcut names.
  rcases regular.fields entry constrained with types | keywords
  · exact spelled_fragmentCondition (types ▸ rfl) (types ▸ by decide) constraints entry.2
  · exact spelled_fragmentCondition (keywords ▸ rfl) (keywords ▸ by decide) constraints entry.2

theorem spelled_withoutTypes : predicate.withoutTypes.spelled = predicate.spelled.withoutTypes :=
  mapConditions_withoutTypes _ predicate

/-- The alternatives of a predicate in one spelling are its alternatives in this spelling. -/
theorem spelled_namedAlternatives :
    predicate.spelled.namedAlternatives = predicate.namedAlternatives.map spelled := by
  unfold namedAlternatives
  rw [typeSelection_spelled, fragments_spelled, List.map_append, List.map_map, List.map_map,
    ← spelled_withoutTypes]
  congr 1
  · rw [TypeSelection.spelled, Option.toList_map, List.map_map]
    exact List.map_congr_left fun rest _ =>
      (mapConditions_insert _ predicate.withoutTypes typeField rest).symm
  · exact List.map_congr_left fun fragment inside =>
      (spelled_applyFragment _ _ (isRegular_of_mem_fragments inside)).symm

/-- Spelling out a predicate spells out its alternatives. -/
theorem alternatives_spelled :
    predicate.spelled.alternatives = predicate.alternatives.map spelled := by
  by_cases names : predicate.NamesShortcuts
  · rw [alternatives_of_namesShortcuts names,
      alternatives_of_namesShortcuts (predicate.namesShortcuts_spelled.mpr names),
      spelled_namedAlternatives, List.isEmpty_map, typeSelection_spelled, ← spelled_withoutTypes,
      apply_ite (List.map spelled), List.map_singleton, spelled_withConstraints]
    rfl
  · rw [alternatives_of_not_namesShortcuts names, alternatives_of_not_namesShortcuts
      fun spelled => names (predicate.namesShortcuts_spelled.mp spelled), List.map_singleton]

end Predicate

/-- Spelling out a filter spells out the filters that replace it. -/
theorem Filter.restructure_spelled (filter : Filter) :
    filter.spelled.restructure = filter.restructure.map spelled := by
  have alternatives : filter.spelled.predicates.map Predicate.alternatives =
      (filter.predicates.map Predicate.alternatives).map (List.map Predicate.spelled) := by
    rw [spelled, mapPredicates, List.map_map, List.map_map]
    exact List.map_congr_left fun predicate _ => predicate.alternatives_spelled
  rw [restructure_eq_regroup, restructure_eq_regroup, alternatives]
  exact (map_regroup Predicate.spelled _ _).symm

end CatalogSearch
