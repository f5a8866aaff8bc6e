import CatalogSearch.Proofs.Expansion.NormalForm

/-!
# Fields of expanded queries

An expanded query constrains fields of the query, and apart from them at most types and their
keywords (`Query.mem_fields_expand`). Fields that name no shortcuts can be deleted
before or after a filter is restructured: what remains is the same
(`Filter.map_restrict_restructure`).
-/

namespace CatalogSearch

namespace FieldEntries

variable {keep : String → Bool} {field : String}

/-- The entries of the fields that are kept. -/
def restrict (keep : String → Bool) (entries : FieldEntries) : FieldEntries :=
  entries.filter fun (field, _) => keep field

/-- A field that is kept stays in front. -/
theorem restrict_cons_of_kept (kept : keep field = true) (condition : FieldCondition)
    (rest : FieldEntries) : restrict keep ((field, condition) :: rest) =
      (field, condition) :: restrict keep rest :=
  List.filter_cons_of_pos kept

theorem restrict_cons_of_deleted (deleted : keep field = false) (condition : FieldCondition)
    (rest : FieldEntries) : restrict keep ((field, condition) :: rest) = restrict keep rest :=
  List.filter_cons_of_neg (by simpa using deleted)

theorem restrict_restrict (keep : String → Bool) (entries : FieldEntries) :
    restrict keep (restrict keep entries) = restrict keep entries := by
  rw [restrict, restrict, List.filter_filter]
  simp only [Bool.and_self]

/-- Setting a field that is deleted leaves no trace. -/
theorem restrict_set (keep : String → Bool) (field : String) (condition : FieldCondition)
    (entries : FieldEntries) : restrict keep (set field condition entries).2 =
      if keep field then (set field condition (restrict keep entries)).2
      else restrict keep entries := by
  induction entries with
  | nil => cases kept : keep field <;> simp [set, restrict, kept]
  | cons entry rest ih =>
      obtain ⟨name, present⟩ := entry
      by_cases same : name = field
      · subst same
        cases kept : keep name with
        | true => simp [set, restrict_cons_of_kept kept]
        | false => simp [set, restrict_cons_of_deleted kept]
      · cases named : keep name with
        | true =>
            simp only [set, same, ↓reduceIte, restrict_cons_of_kept named, ih]
            split <;> rfl
        | false => simp only [set, same, ↓reduceIte, restrict_cons_of_deleted named, ih]

/-- Removing a field that is not there changes nothing. -/
theorem unset_of_not_mem {entries : FieldEntries} (absent : field ∉ names entries) :
    (unset field entries).2 = entries := by
  induction entries with
  | nil => rfl
  | cons entry rest ih =>
      obtain ⟨name, present⟩ := entry
      have ⟨other, later⟩ := not_or.mp fun member => absent (List.mem_cons.mpr member)
      have different : name ≠ field := fun same => other same.symm
      simp only [unset, different, ↓reduceIte, ih later]

/-- A field that is deleted is not there. -/
theorem not_mem_names_restrict (deleted : keep field = false) (entries : FieldEntries) :
    field ∉ names (restrict keep entries) := by
  intro member
  obtain ⟨entry, inside, rfl⟩ := List.mem_map.mp member
  exact absurd (List.mem_filter.mp inside).2 (by simp [deleted])

/-- Fields can be deleted before or after one of them is removed. -/
theorem restrict_unset (keep : String → Bool) (field : String) (entries : FieldEntries) :
    restrict keep (unset field entries).2 = (unset field (restrict keep entries)).2 := by
  induction entries with
  | nil => rfl
  | cons entry rest ih =>
      obtain ⟨name, present⟩ := entry
      by_cases same : name = field
      · subst same
        cases kept : keep name with
        | true => simp [unset, restrict_cons_of_kept kept]
        | false =>
            rw [restrict_cons_of_deleted kept, unset_of_not_mem (not_mem_names_restrict kept rest)]
            simp [unset]
      · cases named : keep name with
        | true => simp [unset, same, restrict_cons_of_kept named, ih]
        | false => simp [unset, same, restrict_cons_of_deleted named, ih]

end FieldEntries

namespace Predicate

section Origins

variable {predicate alternative : Predicate}

/-- A field is there exactly if it holds a condition. -/
theorem mem_fields_iff {field : String} :
    field ∈ predicate.fields ↔ ∃ condition, predicate.get? field = some condition := by
  simp only [fields, FieldEntries.names, List.mem_map, Prod.exists, exists_and_right,
    exists_eq_right, get?_eq_some_iff]

/-- An alternative constrains fields of the predicate except the one that names shortcuts, and,
where the predicate names some, types and their keywords. -/
theorem mem_fields_of_mem_alternatives (member : alternative ∈ predicate.alternatives)
    {field : String} (constrained : field ∈ alternative.fields) :
    field ∈ predicate.fields ∧ field ≠ subFiltersField ∨
      predicate.NamesShortcuts ∧ (field = typeField ∨ field = keywordsField) := by
  obtain ⟨condition, held⟩ := mem_fields_iff.mp constrained
  have other : field ≠ subFiltersField := by
    rintro rfl
    have absent := (not_namesShortcuts_iff.mp (not_namesShortcuts_of_mem_alternatives member)).1
    exact absurd (absent.symm.trans held) (Option.some_ne_none condition).symm
  by_cases names : predicate.NamesShortcuts
  · by_cases types : field = typeField ∨ field = keywordsField
    · exact .inr ⟨names, types⟩
    · have ordinary : IsOrdinary field :=
        ⟨fun same => types (.inl same), fun same => types (.inr same), other⟩
      rw [get?_of_mem_alternatives member ordinary] at held
      exact .inl ⟨mem_fields_iff.mpr ⟨condition, held⟩, other⟩
  · rw [alternatives_of_not_namesShortcuts names, List.mem_singleton] at member
    exact .inl ⟨member ▸ constrained, other⟩

theorem fields_expand (now : Instant) (predicate : Predicate) :
    (predicate.expand now).fields = predicate.fields := by
  simp [fields, FieldEntries.names, expand, mapConditions]

end Origins

/-- The predicate without the fields that are not kept. -/
def restrict (keep : String → Bool) (predicate : Predicate) : Predicate where
  entries := predicate.entries.restrict keep
  distinct := predicate.distinct.sublist (List.filter_sublist.map Prod.fst)

section Restriction

variable {keep : String → Bool}

/-- A predicate is determined by its entries. -/
theorem eq_of_entries {first second : Predicate} (same : first.entries = second.entries) :
    first = second := by
  cases first
  cases second
  cases same
  rfl

/-- Deleting fields of a predicate twice is deleting them once. -/
theorem restrict_restrict (keep : String → Bool) (predicate : Predicate) :
    (predicate.restrict keep).restrict keep = predicate.restrict keep :=
  eq_of_entries (FieldEntries.restrict_restrict keep predicate.entries)

/-- Setting a field matters after deleting only if the field is kept. -/
theorem restrict_insert (keep : String → Bool) (predicate : Predicate) (field : String)
    (condition : FieldCondition) : (predicate.insert field condition).restrict keep =
      if keep field then (predicate.restrict keep).insert field condition
      else predicate.restrict keep := by
  apply eq_of_entries
  refine (FieldEntries.restrict_set keep field condition predicate.entries).trans ?_
  split <;> rfl

theorem restrict_erase (keep : String → Bool) (predicate : Predicate) (field : String) :
    (predicate.erase field).restrict keep = (predicate.restrict keep).erase field :=
  eq_of_entries (FieldEntries.restrict_unset keep field predicate.entries)

/-- A field that is kept has its condition. -/
theorem get?_restrict {field : String} (kept : keep field = true) (predicate : Predicate) :
    (predicate.restrict keep).get? field = predicate.get? field := by
  apply Option.ext
  intro condition
  rw [get?_eq_some_iff, get?_eq_some_iff]
  exact List.mem_filter.trans (and_iff_left kept)

section Congruence

variable {first second : Predicate} (same : first.restrict keep = second.restrict keep)

include same

/-- Predicates that differ in deleted fields still do so after the same entries have been set. -/
theorem restrict_insertAll_congr (entries : FieldEntries) :
    (first.insertAll entries).restrict keep = (second.insertAll entries).restrict keep := by
  induction entries generalizing first second with
  | nil => exact same
  | cons entry rest ih =>
      obtain ⟨field, condition⟩ := entry
      exact ih (by rw [restrict_insert, restrict_insert, same])

/-- Predicates that differ in deleted fields still do so under the same constraints. -/
theorem restrict_withConstraints_congr (constraints : MatchOptions) :
    (first.withConstraints constraints).restrict keep =
      (second.withConstraints constraints).restrict keep := by
  unfold withConstraints
  split
  · exact same
  · rw [restrict_insert, restrict_insert, same]

/-- Predicates that differ in deleted fields still do so with the same fragment. -/
theorem restrict_applyFragment_congr (constraints : MatchOptions) (fragment : Fragment) :
    (first.applyFragment constraints fragment).restrict keep =
      (second.applyFragment constraints fragment).restrict keep := by
  unfold applyFragment
  dsimp only
  split
  · exact restrict_insertAll_congr same _
  · exact restrict_withConstraints_congr (restrict_insertAll_congr same _) constraints

theorem restrict_withoutTypes_congr :
    first.withoutTypes.restrict keep = second.withoutTypes.restrict keep := by
  simp only [withoutTypes, restrict_erase, same]

end Congruence

section Agreement

variable {first second : Predicate} (same : first.restrict keep = second.restrict keep)

include same

theorem get?_congr {field : String} (kept : keep field = true) :
    first.get? field = second.get? field := by
  rw [← get?_restrict kept first, same, get?_restrict kept second]

variable (types : keep typeField = true) (shortcuts : keep subFiltersField = true)

include types

theorem typeSelection_congr : first.typeSelection = second.typeSelection := by
  rw [typeSelection, get?_congr same types, typeSelection]

include shortcuts

theorem fragments_congr : first.fragments = second.fragments := by
  simp only [fragments, Predicate.shortcuts, choicesOn, get?_congr same types,
    get?_congr same shortcuts]

theorem namesShortcuts_congr : first.NamesShortcuts ↔ second.NamesShortcuts := by
  simp only [NamesShortcuts, choicesOn, contains, get?_congr same types, get?_congr same shortcuts]

/-- Predicates that differ in deleted fields have alternatives that do so. -/
theorem map_restrict_namedAlternatives_congr :
    first.namedAlternatives.map (restrict keep) = second.namedAlternatives.map (restrict keep) := by
  have bases := restrict_withoutTypes_congr same
  simp only [namedAlternatives, typeSelection_congr same types,
    fragments_congr same types shortcuts, List.map_append, List.map_map]
  congr 1
  · refine List.map_congr_left fun rest _ => ?_
    simp only [Function.comp_apply, restrict_insert, bases]
  · exact List.map_congr_left fun fragment _ => restrict_applyFragment_congr bases _ fragment

/-- Predicates that agree on the fields that are kept, among them those that name shortcuts, have
alternatives that agree on them. -/
theorem map_restrict_alternatives_congr :
    first.alternatives.map (restrict keep) = second.alternatives.map (restrict keep) := by
  by_cases names : first.NamesShortcuts
  · have listed := map_restrict_namedAlternatives_congr same types shortcuts
    have empty : first.namedAlternatives.isEmpty = second.namedAlternatives.isEmpty := by
      rw [← List.isEmpty_map, listed, List.isEmpty_map]
    rw [alternatives_of_namesShortcuts names, alternatives_of_namesShortcuts
      ((namesShortcuts_congr same types shortcuts).mp names), empty,
      typeSelection_congr same types]
    split
    · simp only [List.map_cons, List.map_nil,
        restrict_withConstraints_congr (restrict_withoutTypes_congr same)]
    · exact listed
  · rw [alternatives_of_not_namesShortcuts names, alternatives_of_not_namesShortcuts
      fun others => names ((namesShortcuts_congr same types shortcuts).mpr others)]
    simp only [List.map_cons, List.map_nil, same]

end Agreement

end Restriction

end Predicate

namespace Filter

/-- The filter without the fields that are not kept. -/
def restrict (keep : String → Bool) (filter : Filter) : Filter :=
  ⟨filter.connective, filter.predicates.map (Predicate.restrict keep)⟩

/-- The filters that groups of alternatives become. -/
def regroup (connective : Connective) (groups : List (List Predicate)) : List Filter :=
  let kept := (groups.filter (keeps connective)).flatten
  let moved := groups.filter fun group => !keeps connective group
  (if kept.isEmpty && !groups.isEmpty then [] else [⟨connective, kept⟩]) ++
    moved.map fun group => ⟨.or, group⟩

/-- The filters that a filter is split into depend on the alternatives of its predicates only. -/
theorem restructure_eq_regroup (filter : Filter) : filter.restructure =
    regroup filter.connective (filter.predicates.map Predicate.alternatives) := by
  rw [restructure, regroup, List.isEmpty_map]

/-- The filter with its predicates changed one by one. -/
def mapPredicates (change : Predicate → Predicate) (filter : Filter) : Filter :=
  ⟨filter.connective, filter.predicates.map change⟩

/-- Only the number of alternatives decides where they go. -/
theorem map_regroup (change : Predicate → Predicate) (connective : Connective)
    (groups : List (List Predicate)) :
    (regroup connective groups).map (mapPredicates change) =
      regroup connective (groups.map (List.map change)) := by
  have same (group : List Predicate) : keeps connective (group.map change) =
      keeps connective group := by
    rw [keeps, keeps, List.length_map]
  simp only [regroup, List.filter_map, Function.comp_def, same, ← List.map_flatten,
    List.isEmpty_map, List.map_append, List.map_map, mapPredicates]
  congr 1
  split <;> rfl

/-- Whether filters have the same connective, and related predicates one by one. -/
structure RelatedBy (relation : Predicate → Predicate → Prop) (first second : Filter) : Prop where
  connective : first.connective = second.connective
  predicates : List.Forall₂ relation first.predicates second.predicates

section Related

variable {relation expanded : Predicate → Predicate → Prop}

/-- Groups of related alternatives become related filters. -/
theorem forall₂_regroup (connective : Connective) {first second : List (List Predicate)}
    (related : List.Forall₂ (List.Forall₂ relation) first second) :
    List.Forall₂ (RelatedBy relation) (regroup connective first) (regroup connective second) := by
  have same ⦃group other : List Predicate⦄ (related : List.Forall₂ relation group other) :
      keeps connective group = keeps connective other := by
    rw [keeps, keeps, related.length_eq]
  have kept : List.Forall₂ relation (first.filter (keeps connective)).flatten
      (second.filter (keeps connective)).flatten :=
    List.rel_flatten (List.rel_filter (fun _ _ related => by simp [same related]) related)
  have moved : List.Forall₂ (List.Forall₂ relation)
      (first.filter fun group => !keeps connective group)
      (second.filter fun group => !keeps connective group) :=
    List.rel_filter (fun _ _ related => by simp [same related]) related
  unfold regroup
  dsimp only
  rw [isEmpty_eq_of_forall₂ kept, isEmpty_eq_of_forall₂ related]
  refine List.rel_append ?_ (List.rel_map (fun _ _ related => ⟨rfl, related⟩) moved)
  split
  · exact .nil
  · exact .cons ⟨rfl, kept⟩ .nil

/-- Filters expand to related ones if alternatives stay related and their conditions expand to
related ones. -/
theorem RelatedBy.expand {now : Instant} {first second : Filter}
    (related : first.RelatedBy relation second)
    (alternatives : ∀ ⦃asked other : Predicate⦄, relation asked other →
      List.Forall₂ relation asked.alternatives other.alternatives)
    (conditions : ∀ ⦃asked other : Predicate⦄, relation asked other →
      expanded (asked.expand now) (other.expand now)) :
    List.Forall₂ (RelatedBy expanded) (first.expand now) (second.expand now) := by
  have groups : List.Forall₂ (List.Forall₂ relation)
      (first.predicates.map Predicate.alternatives)
      (second.predicates.map Predicate.alternatives) :=
    List.rel_map (fun _ _ related => alternatives related) related.predicates
  rw [expand_eq_map_restructure, expand_eq_map_restructure, restructure_eq_regroup,
    restructure_eq_regroup, related.connective]
  exact List.rel_map (fun _ _ related => ⟨related.connective, List.rel_map conditions
    related.predicates⟩) (forall₂_regroup second.connective groups)

end Related

variable {keep : String → Bool}

variable (types : keep typeField = true) (shortcuts : keep subFiltersField = true)

include types shortcuts

/-- Fields that name no shortcuts can be deleted before a filter is restructured. -/
theorem map_restrict_restructure (filter : Filter) :
    (filter.restrict keep).restructure.map (restrict keep) =
      filter.restructure.map (restrict keep) := by
  have alternatives : ((filter.restrict keep).predicates.map Predicate.alternatives).map
      (List.map (Predicate.restrict keep)) =
        (filter.predicates.map Predicate.alternatives).map
          (List.map (Predicate.restrict keep)) := by
    simp only [restrict, List.map_map]
    exact List.map_congr_left fun predicate _ => Predicate.map_restrict_alternatives_congr
      (predicate.restrict_restrict keep) types shortcuts
  rw [restructure_eq_regroup, restructure_eq_regroup]
  refine (map_regroup (Predicate.restrict keep) _ _).trans ?_
  rw [alternatives]
  exact (map_regroup (Predicate.restrict keep) _ _).symm

end Filter

/-- An expanded query constrains fields of the query except the one that names shortcuts, and, where
a predicate names some, types and their keywords. -/
theorem Query.mem_fields_expand {now : Instant} {query : Query} {predicate : Predicate}
    (member : predicate ∈ (query.expand now).predicates) {field : String}
    (constrained : field ∈ predicate.fields) :
    (∃ original ∈ query.predicates, field ∈ original.fields ∧ field ≠ subFiltersField) ∨
      (∃ original ∈ query.predicates, original.NamesShortcuts) ∧
        (field = typeField ∨ field = keywordsField) := by
  obtain ⟨original, given, alternative, listed, rfl⟩ := origin_of_mem_expand member
  rw [Predicate.fields_expand] at constrained
  rcases Predicate.mem_fields_of_mem_alternatives listed constrained with own | ⟨names, brought⟩
  · exact .inl ⟨original, given, own⟩
  · exact .inr ⟨⟨original, given, names⟩, brought⟩

end CatalogSearch
