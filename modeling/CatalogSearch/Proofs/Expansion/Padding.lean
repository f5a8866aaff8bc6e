import CatalogSearch.Proofs.Expansion.Fields

/-!
# Fields that ask for nothing

A list without texts asks for nothing, and so do match options none of whose parts has texts. When a
predicate gets such a field, its alternatives get the field and stay as they are otherwise, and so
do the filters of an expansion (`Filter.Padded.expand`).
-/

namespace CatalogSearch

/-- Whether the parts of options, if there are any, have no texts. -/
def MatchOptions.AsksNothing (options : MatchOptions) : Prop :=
  ∀ part ∈ [options.any, options.all, options.not, options.exact], ∀ texts ∈ part,
    texts.toList = []

/-- A condition that asks for nothing: a list or options without texts. -/
inductive FieldCondition.AsksNothing : FieldCondition → Prop where
  | list : AsksNothing (.list [])
  | options {options : MatchOptions} (idle : options.AsksNothing) : AsksNothing (.options options)

/-- Options without texts, as a condition. -/
def FieldCondition.IsIdleOptions (condition : FieldCondition) : Prop :=
  ∃ options, condition = .options options ∧ options.AsksNothing

section Padding

variable (idle : FieldCondition → Prop) (field : String)

/-- Whether the second predicate is the first one, or has one field more, at some place, with an
idle condition. -/
inductive Predicate.Padded : Predicate → Predicate → Prop where
  | same (predicate : Predicate) : Padded predicate predicate
  | added {first second : Predicate} {condition : FieldCondition}
      (held : second.get? field = some condition) (idle : idle condition)
      (rest : second.restrict (· != field) = first) : Padded first second

/-- Whether any number of predicates of a filter have one field more, with an idle condition. -/
def Filter.Padded : Filter → Filter → Prop :=
  Filter.RelatedBy (Predicate.Padded idle field)

/-- Whether any number of predicates of a query have one field more, with an idle condition. -/
structure Query.Padded (first second : Query) : Prop where
  target : first.target = second.target
  filters : List.Forall₂ (Filter.Padded idle field) first.filters second.filters

end Padding

/-- A field that is matched gets options when its condition is expanded. -/
theorem FieldCondition.AsksNothing.expand {field : String} {condition : FieldCondition}
    (idle : condition.AsksNothing) (matching : FieldKind.ofName field = .matching)
    (now : Instant) : (condition.expand now field).IsIdleOptions := by
  cases idle with
  | list =>
      refine ⟨.ofAny [], by simp only [FieldCondition.expand, matching], ?_⟩
      simp [MatchOptions.AsksNothing, MatchOptions.ofAny, MatchOptions.empty, Texts.toList]
  | options idle => exact ⟨_, by simp only [FieldCondition.expand, matching], idle⟩

namespace Predicate

section Without

variable {field : String}

/-- Deleting a field that is not there changes nothing. -/
theorem restrict_of_absent {predicate : Predicate} (absent : predicate.get? field = none) :
    predicate.restrict (· != field) = predicate := by
  refine eq_of_entries (List.filter_eq_self.mpr fun entry member => ?_)
  rw [bne_iff_ne]
  rintro rfl
  rw [get?_eq_some_iff.mpr member] at absent
  cases absent

/-- A field that is deleted holds nothing. -/
theorem get?_restrict_of_deleted (predicate : Predicate) :
    (predicate.restrict (· != field)).get? field = none :=
  FieldEntries.lookup_eq_none <|
    @FieldEntries.not_mem_names_restrict (· != field) field (bne_self_eq_false field) _

/-- Without a field that no shortcut constrains, the alternatives of a predicate are those of the
predicate without it. -/
theorem alternatives_restrict (ordinary : IsOrdinary field) (predicate : Predicate) :
    (predicate.restrict (· != field)).alternatives =
      predicate.alternatives.map (restrict (· != field)) := by
  have types : (typeField != field) = true := bne_iff_ne.mpr ordinary.1.symm
  have shortcuts : (subFiltersField != field) = true := bne_iff_ne.mpr ordinary.2.2.symm
  have agree := @map_restrict_alternatives_congr (· != field) _ _
    (predicate.restrict_restrict (· != field)) types shortcuts
  rw [← agree]
  refine (List.map_id _).symm.trans (List.map_congr_left fun alternative member => ?_)
  have absent : alternative.get? field = none :=
    (get?_of_mem_alternatives member ordinary).trans predicate.get?_restrict_of_deleted
  exact (restrict_of_absent absent).symm

theorem restrict_expand (keep : String → Bool) (predicate : Predicate) (now : Instant) :
    (predicate.expand now).restrict keep = (predicate.restrict keep).expand now :=
  eq_of_entries List.filter_map

end Without

namespace Padded

variable {idle options : FieldCondition → Prop} {field : String} {first second : Predicate}

/-- The alternatives of a padded predicate are padded. -/
theorem alternatives (ordinary : IsOrdinary field) (padded : Padded idle field first second) :
    List.Forall₂ (Padded idle field) first.alternatives second.alternatives := by
  cases padded with
  | same => exact List.forall₂_same.mpr fun predicate _ => .same predicate
  | added held idle rest =>
      rw [← rest, alternatives_restrict ordinary, List.forall₂_map_left_iff]
      exact List.forall₂_same.mpr fun alternative member =>
        .added ((get?_of_mem_alternatives member ordinary).trans held) idle rfl

/-- An idle field stays idle under expansion. -/
theorem expand {now : Instant}
    (conditions : ∀ condition, idle condition → options (condition.expand now field))
    (padded : Padded idle field first second) :
    Padded options field (first.expand now) (second.expand now) := by
  cases padded with
  | same => exact .same _
  | added held idle rest =>
      refine .added (by rw [get?_expand, held]; rfl) (conditions _ idle) ?_
      rw [restrict_expand, rest]

end Padded

end Predicate

/-- The filters of a padded one become padded by options when it is expanded. -/
theorem Filter.Padded.expand {field : String} {first second : Filter}
    (padded : first.Padded FieldCondition.AsksNothing field second)
    (ordinary : Predicate.IsOrdinary field) (matching : FieldKind.ofName field = .matching)
    (now : Instant) : List.Forall₂ (Filter.Padded FieldCondition.IsIdleOptions field)
      (first.expand now) (second.expand now) :=
  RelatedBy.expand padded (fun _ _ padded => padded.alternatives ordinary) fun _ _ padded =>
    padded.expand fun _ idle => idle.expand matching now

end CatalogSearch
