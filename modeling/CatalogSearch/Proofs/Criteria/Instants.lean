import CatalogSearch.Ogc.Expression
import CatalogSearch.Portal.Search
import CatalogSearch.Proofs.Criteria.Policies
import CatalogSearch.Proofs.Expansion.NormalForm

/-!
# Criteria and instants

Relative dates become ranges twice: in fields that hold instants when a query is expanded, and in
all others when its conditions become tests. Alternatives keep relative dates in their fields
(`Predicate.get?_eq_relative`), so where these all hold instants, an expanded query has none left
and has the same criteria ever after (`Query.criteria_expand`).
-/

namespace CatalogSearch

/-- Whether relative dates stand only on fields that hold instants. -/
def Query.RelativeOnlyOnDates (query : Query) : Prop :=
  ∀ predicate ∈ query.predicates, ∀ entry ∈ predicate.entries,
    entry.2.isRelative = true → FieldKind.ofName entry.1 = .date

/-- What a condition asks of the type besides shortcuts is a relative date only if the condition is.
-/
theorem TypeSelection.eq_relative_of_rest {condition : FieldCondition} {value : RelativeDate}
    (given : (ofCondition condition).rest = some (.relative value)) :
    condition = .relative value := by
  cases condition with
  | text text =>
      cases shortcut : Shortcut.isShortcut text <;> simp [ofCondition, shortcut] at given
  | list values => cases (restOf_eq_some.mp given).2
  | options options =>
      dsimp only [ofCondition] at given
      cases (restOf_eq_some.mp given).2
  | _ => exact Option.some.inj given

namespace Predicate

/-- No fragment asks for a relative date. -/
theorem fragmentCondition_ne_relative (constraints : MatchOptions) (field : String)
    (texts : List String) (value : RelativeDate) :
    fragmentCondition constraints field texts ≠ .relative value := by
  unfold fragmentCondition
  split <;> simp

/-- What is held without the type was held before. -/
theorem get?_of_get?_withoutTypes {predicate : Predicate} {field : String}
    {condition : FieldCondition} (held : predicate.withoutTypes.get? field = some condition) :
    predicate.get? field = some condition := by
  rw [get?_withoutTypes] at held
  split at held
  · cases held
  · exact held

/-- The relative dates of an alternative are those that the predicate has in the same fields. -/
theorem get?_eq_relative {predicate alternative : Predicate}
    (member : alternative ∈ predicate.alternatives) {field : String} {value : RelativeDate}
    (held : alternative.get? field = some (.relative value)) :
    predicate.get? field = some (.relative value) := by
  rcases origin_of_mem_alternatives member with rfl | ⟨rest, given, rfl⟩ |
    ⟨fragment, inside, rfl⟩ | rfl
  · exact held
  · rw [get?_insert] at held
    split at held
    · rename_i types
      obtain rfl := Option.some.inj held
      unfold typeSelection at given
      rw [types]
      cases asked : predicate.get? typeField with
      | none =>
          rw [asked] at given
          cases given
      | some condition =>
          rw [asked] at given
          rw [TypeSelection.eq_relative_of_rest given]
    · exact get?_of_get?_withoutTypes held
  · have regular := isRegular_of_mem_fragments inside
    by_cases brought : field ∈ fragment.map Prod.fst
    · obtain ⟨entry, constrained, rfl⟩ := List.mem_map.mp brought
      rw [get?_applyFragment_of_mem regular constrained] at held
      exact absurd (Option.some.inj held) (fragmentCondition_ne_relative _ _ _ value)
    · rw [get?_applyFragment_of_not_mem regular brought] at held
      exact get?_of_get?_withoutTypes held
  · rw [get?_withConstraints] at held
    split at held
    · cases held
    · exact get?_of_get?_withoutTypes held

end Predicate

section Instants

variable {first second : Instant} {policy : FieldPolicy}

/-- Only relative dates have other tests at another instant. -/
theorem FieldCondition.tests_eq_of_absolute {condition : FieldCondition}
    (absolute : condition.isRelative = false) (field : String) :
    condition.tests second field = condition.tests first field := by
  cases condition with
  | relative value => cases absolute
  | _ => rfl

/-- A filter without relative dates is lowered alike at all instants. -/
theorem Filter.criteriaGroup?_eq_of_absolute {filter : Filter}
    (absolute : ∀ predicate ∈ filter.predicates, ∀ entry ∈ predicate.entries,
      entry.2.isRelative = false) :
    filter.criteriaGroup? second policy = filter.criteriaGroup? first policy := by
  refine criteriaGroup?_eq_of_forall₂ rfl (List.forall₂_same.mpr fun predicate inside => ?_)
  refine Predicate.conjunction?_eq_of_forall₂ (List.forall₂_same.mpr fun entry member => ?_)
  rw [Clause.ofEntry?, Clause.ofEntry?,
    FieldCondition.tests_eq_of_absolute (absolute predicate inside entry member)]

end Instants

namespace Query

/-- No relative dates are left in an expanded query if they all were in fields that hold instants.
-/
theorem isRelative_of_mem_expand {query : Query} (dated : query.RelativeOnlyOnDates)
    {now : Instant} {predicate : Predicate} (member : predicate ∈ (query.expand now).predicates)
    {entry : String × FieldCondition} (inside : entry ∈ predicate.entries) :
    entry.2.isRelative = false := by
  have normal := isNormal_expand now query predicate member
  obtain ⟨original, given, alternative, listed, rfl⟩ := origin_of_mem_expand member
  have held := Predicate.get?_eq_some_iff.mpr inside
  obtain ⟨condition, origin, same⟩ := Predicate.mem_entries_expand_iff.mp inside
  cases kind : FieldKind.ofName entry.1 with
  | date => exact normal.resolved entry.1 entry.2 held kind
  | _ =>
      -- Elsewhere expansion brings no relative dates, and the query has none to begin with.
      rw [same, Bool.eq_false_iff]
      intro relative
      cases condition with
      | relative value =>
          have asked := Predicate.get?_eq_relative listed (Predicate.get?_eq_some_iff.mpr origin)
          have date := dated original given _ (Predicate.get?_eq_some_iff.mp asked) rfl
          rw [kind] at date
          cases date
      | _ =>
          simp only [FieldCondition.expand, kind] at relative
          cases relative

/-- **Expanding before lowering.** An expanded query has the criteria of the query at the instant of
expansion. If relative dates stand only on fields that hold instants, it has them at every other
instant too, and both backends get the same texts for it. -/
theorem criteria_expand (query : Query) (first : Instant) :
    (∀ policy, (query.expand first).criteria first policy = query.criteria first policy) ∧
      (query.RelativeOnlyOnDates → ∀ second : Instant,
        (∀ policy, (query.expand first).criteria second policy = query.criteria first policy) ∧
        (∀ settings : PortalSettings,
          (PortalSearch.ofQuery settings second (query.expand first)).query =
              (PortalSearch.ofQuery settings first query).query ∧
            (PortalSearch.ofQuery settings second (query.expand first)).exact =
              (PortalSearch.ofQuery settings first query).exact) ∧
        ∀ settings : OgcSettings, Ogc.expression settings second (query.expand first) =
          Ogc.expression settings first query) := by
  have stable (second : Instant) : (query.expand first).expand second = query.expand first :=
    (isNormal_expand first query).expand_eq second
  refine ⟨fun policy => by rw [criteria, stable, criteria], fun dated second => ?_⟩
  have same (policy : FieldPolicy) :
      (query.expand first).criteria second policy = query.criteria first policy := by
    rw [criteria, stable, criteria]
    refine congrArg Criteria.mk (List.filterMap_congr fun filter filterMember => ?_)
    exact Filter.criteriaGroup?_eq_of_absolute fun predicate inside _ =>
      isRelative_of_mem_expand dated (List.mem_flatMap.mpr ⟨filter, filterMember, inside⟩)
  refine ⟨same, fun settings => ?_, fun settings => ?_⟩
  · rw [PortalSearch.ofQuery, same, PortalSearch.ofQuery]
    exact ⟨rfl, rfl⟩
  · rw [Ogc.expression, same, Ogc.expression]

/-- A relative date beside a shortcut with several alternatives, which all take it along: a day
later, the expanded query still asks for the range of the first instant. -/
theorem criteria_expand_nextDay :
    let query : Query := ⟨.item, [⟨.and, [.ofEntries
      [("type", .list ["$storymap", "Web Map"]), ("created", .relative ⟨.days, 7⟩)]]⟩]⟩
    let settings : OgcSettings := .initial
    let later : Instant := ⟨1, .midnight, by decide, by decide⟩
    query.RelativeOnlyOnDates ∧
      Ogc.expression settings later (query.expand .epoch) =
        Ogc.expression settings .epoch query ∧
      query.criteria later settings.includes ≠ query.criteria .epoch settings.includes := by
  intro query settings later
  have dated : query.RelativeOnlyOnDates := by
    unfold RelativeOnlyOnDates
    decide
  exact ⟨dated, ((criteria_expand query .epoch).2 dated later).2.2 settings, by decide⟩

end Query

end CatalogSearch
