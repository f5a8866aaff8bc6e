import CatalogSearch.Ogc.Expression
import CatalogSearch.Portal.Search
import CatalogSearch.Proofs.Criteria.WellFormed
import CatalogSearch.Proofs.Expansion.Fields
import Mathlib.Data.List.Basic

/-!
# What criteria owe to a policy

A policy is asked only about the fields of a query, and about types and their keywords if the query
names shortcuts (`Query.criteria_eq_of_agree`). What a query says on the fields that a policy
excludes does not reach the criteria, unless the field names shortcuts
(`Query.criteria_eq_of_restrict_eq`).
-/

namespace CatalogSearch

/-- The clauses of a predicate are those of its entries on included fields. -/
theorem Predicate.conjunction?_eq (now : Instant) (policy : FieldPolicy) (predicate : Predicate) :
    predicate.conjunction? now policy =
      let included := predicate.entries.filter fun entry => policy entry.1
      let clauses := included.filterMap fun entry =>
        Clause.ofTests? entry.1 (entry.2.tests now entry.1)
      if clauses.isEmpty then none else some ⟨clauses⟩ :=
  rfl

/-- The clause of a condition, if the policy includes its field and it has tests. -/
def Clause.ofEntry? (now : Instant) (policy : FieldPolicy) (entry : String × FieldCondition) :
    Option Clause :=
  if policy entry.1 then ofTests? entry.1 (entry.2.tests now entry.1) else none

section Agreement

variable {now later : Instant} {policy other : FieldPolicy}

/-- Predicates are lowered alike if their conditions have the same clauses, one by one. -/
theorem Predicate.conjunction?_eq_of_forall₂ {first second : Predicate}
    (same : List.Forall₂ (fun entry another =>
      Clause.ofEntry? now policy entry = Clause.ofEntry? later other another)
        first.entries second.entries) :
    first.conjunction? now policy = second.conjunction? later other := by
  have clauses := filterMap_eq_of_forall₂ same
  rw [conjunction?_eq, conjunction?_eq]
  simp only [List.filterMap_filter]
  exact congrArg (fun clauses => if clauses.isEmpty then none else some (Conjunction.mk clauses))
    clauses

/-- Filters are lowered alike if their predicates are, one by one. -/
theorem Filter.criteriaGroup?_eq_of_forall₂ {first second : Filter}
    (connective : first.connective = second.connective)
    (same : List.Forall₂ (fun predicate another =>
      predicate.conjunction? now policy = another.conjunction? later other)
        first.predicates second.predicates) :
    first.criteriaGroup? now policy = second.criteriaGroup? later other := by
  rw [criteriaGroup?, filterMap_eq_of_forall₂ same, connective, criteriaGroup?]

/-- A predicate is lowered alike by policies that agree on its fields. -/
theorem Predicate.conjunction?_congr {predicate : Predicate}
    (agree : ∀ field ∈ predicate.fields, policy field = other field) :
    predicate.conjunction? now policy = predicate.conjunction? now other := by
  refine conjunction?_eq_of_forall₂ (List.forall₂_same.mpr fun entry member => ?_)
  rw [Clause.ofEntry?, agree entry.1 (List.mem_map.mpr ⟨entry, member, rfl⟩), Clause.ofEntry?]

/-- A filter whose predicates are lowered alike is lowered alike. -/
theorem Filter.criteriaGroup?_congr {filter : Filter}
    (agree : ∀ predicate ∈ filter.predicates,
      predicate.conjunction? now policy = predicate.conjunction? now other) :
    filter.criteriaGroup? now policy = filter.criteriaGroup? now other :=
  criteriaGroup?_eq_of_forall₂ rfl (List.forall₂_same.mpr agree)

end Agreement

/-- **Backends lower shared fields alike.** Policies give a query the same criteria if they agree on
its fields except the one that names shortcuts and, should a predicate name shortcuts, on types and
their keywords. -/
theorem Query.criteria_eq_of_agree {first second : FieldPolicy} {query : Query}
    (named : ∀ predicate ∈ query.predicates, ∀ field ∈ predicate.fields,
      field ≠ subFiltersField → first field = second field)
    (brought : (∃ predicate ∈ query.predicates, predicate.NamesShortcuts) →
      first typeField = second typeField ∧ first keywordsField = second keywordsField)
    (now : Instant) : query.criteria now first = query.criteria now second := by
  have agree : ∀ filter ∈ (query.expand now).filters, ∀ predicate ∈ filter.predicates,
      ∀ field ∈ predicate.fields, first field = second field := by
    intro filter filterMember predicate predicateMember field constrained
    rcases mem_fields_expand (List.mem_flatMap.mpr ⟨filter, filterMember, predicateMember⟩)
      constrained with ⟨original, given, own, other⟩ | ⟨names, rfl | rfl⟩
    · exact named original given field own other
    · exact (brought names).1
    · exact (brought names).2
  refine congrArg Criteria.mk (List.filterMap_congr fun filter member => ?_)
  exact Filter.criteriaGroup?_congr fun predicate inside =>
    Predicate.conjunction?_congr (agree filter member predicate inside)

/-- The initial settings of both backends, on a query that names shortcuts in both ways. -/
theorem Query.criteria_eq_of_agree_storyMap :
    let query : Query := ⟨.item, [⟨.and,
      [.ofEntries [("type", .list ["$storymap", "Web Map"]), ("owner", .text "casey")],
        .ofEntries [("subFilters", .text "dataset"), ("tags", .list ["water"])]]⟩]⟩
    (∀ predicate ∈ query.predicates, ∀ field ∈ predicate.fields, field ≠ subFiltersField →
        PortalSettings.initial.includes field = OgcSettings.initial.includes field) ∧
      (∃ predicate ∈ query.predicates, predicate.NamesShortcuts) ∧
      query.criteria .epoch PortalSettings.initial.includes =
        query.criteria .epoch OgcSettings.initial.includes := by
  intro query
  have named : ∀ predicate ∈ query.predicates, ∀ field ∈ predicate.fields,
      field ≠ subFiltersField →
        PortalSettings.initial.includes field = OgcSettings.initial.includes field := by
    decide
  have brought : PortalSettings.initial.includes typeField =
        OgcSettings.initial.includes typeField ∧
      PortalSettings.initial.includes keywordsField =
        OgcSettings.initial.includes keywordsField := by
    decide
  have names : ∃ predicate ∈ query.predicates, predicate.NamesShortcuts := by
    unfold Predicate.NamesShortcuts
    decide
  exact ⟨named, names, criteria_eq_of_agree named (fun _ => brought) .epoch⟩

/-- The query without the fields that are not kept. -/
def Query.restrict (keep : String → Bool) (query : Query) : Query :=
  ⟨query.target, query.filters.map (Filter.restrict keep)⟩

section Restriction

variable {now : Instant} {policy : FieldPolicy} {keep : String → Bool}
  (included : ∀ field, policy field = true → keep field = true)

include included

/-- Fields that the policy excludes can be deleted before a predicate is lowered. -/
theorem Predicate.conjunction?_restrict (predicate : Predicate) :
    ((predicate.restrict keep).expand now).conjunction? now policy =
      (predicate.expand now).conjunction? now policy := by
  have same : ((predicate.restrict keep).expand now).entries.filter
      (fun entry => policy entry.1) =
        (predicate.expand now).entries.filter fun entry => policy entry.1 := by
    simp only [expand, mapConditions, restrict, FieldEntries.restrict, List.filter_map,
      List.filter_filter]
    refine congrArg _ (List.filter_congr fun entry _ => ?_)
    exact Bool.and_eq_left_iff_imp.mpr (included entry.1)
  rw [conjunction?_eq, same, conjunction?_eq]

/-- A filter is lowered alike without the fields that the policy excludes. -/
theorem Filter.criteriaGroup?_restrict (filter : Filter) :
    ((filter.restrict keep).expandConditions now).criteriaGroup? now policy =
      (filter.expandConditions now).criteriaGroup? now policy := by
  have same : ((filter.restrict keep).expandConditions now).predicates.filterMap
      (Predicate.conjunction? now policy) =
        (filter.expandConditions now).predicates.filterMap (Predicate.conjunction? now policy) := by
    simp only [expandConditions, restrict, List.filterMap_map]
    exact List.filterMap_congr fun predicate _ => predicate.conjunction?_restrict included
  rw [criteriaGroup?, same, criteriaGroup?]
  rfl

/-- Fields that the policy excludes and that name no shortcuts can be deleted before a query is
expanded. -/
theorem Query.criteria_restrict (types : keep typeField = true)
    (shortcuts : keep subFiltersField = true) (query : Query) :
    (query.restrict keep).criteria now policy = query.criteria now policy := by
  let lower (filter : Filter) := (filter.expandConditions now).criteriaGroup? now policy
  have lowered (query : Query) : (query.expand now).filters.filterMap
      (Filter.criteriaGroup? now policy) = (query.filters.flatMap fun filter =>
        filter.restructure.map (Filter.restrict keep)).filterMap lower := by
    rw [expand_filters, List.filterMap_map, ← List.map_flatMap, List.filterMap_map]
    exact List.filterMap_congr fun filter _ => (filter.criteriaGroup?_restrict included).symm
  refine congrArg Criteria.mk ?_
  rw [lowered, lowered, restrict, List.flatMap_map]
  simp only [Filter.map_restrict_restructure types shortcuts]

end Restriction

/-- The fields that a policy includes, and those that name shortcuts. -/
def FieldPolicy.withShortcuts (policy : FieldPolicy) : FieldPolicy := fun field =>
  policy field || field == typeField || field == subFiltersField

/-- **Excluded fields do not interfere.** If filters are combined alike and their predicates differ
only on fields that a policy excludes and that name no shortcuts, the policy gives them the same
criteria. Where a backend has this policy, it writes the same texts for them. -/
theorem Query.criteria_eq_of_restrict_eq {policy : FieldPolicy} {first second : Query}
    (same : first.filters.map (Filter.restrict policy.withShortcuts) =
      second.filters.map (Filter.restrict policy.withShortcuts)) (now : Instant) :
    first.criteria now policy = second.criteria now policy ∧
      (∀ settings : PortalSettings, settings.includes = policy →
        (PortalSearch.ofQuery settings now first).query =
            (PortalSearch.ofQuery settings now second).query ∧
          (PortalSearch.ofQuery settings now first).exact =
            (PortalSearch.ofQuery settings now second).exact) ∧
      ∀ settings : OgcSettings, settings.includes = policy →
        Ogc.expression settings now first = Ogc.expression settings now second := by
  have alike : first.criteria now policy = second.criteria now policy := by
    have deleted (query : Query) :
        (query.restrict policy.withShortcuts).criteria now policy = query.criteria now policy :=
      criteria_restrict (fun field included => by simp [FieldPolicy.withShortcuts, included])
        (by simp [FieldPolicy.withShortcuts]) (by simp [FieldPolicy.withShortcuts]) query
    rw [← deleted first, ← deleted second, criteria, criteria, expand, expand, restrict, restrict,
      same]
  refine ⟨alike, ?_, ?_⟩
  · rintro settings rfl
    rw [PortalSearch.ofQuery, alike, PortalSearch.ofQuery]
    exact ⟨rfl, rfl⟩
  · rintro settings rfl
    rw [Ogc.expression, alike, Ogc.expression]

/-- A request parameter on one side, and on the other keywords, which the portal does not take here
and a fragment of the shortcut replaces. -/
theorem Query.criteria_eq_of_restrict_eq_keywords :
    let settings : PortalSettings := ⟨["owner", "type"], [], ["bbox"]⟩
    let first : Query := ⟨.item, [⟨.and, [.ofEntries
      [("bbox", .text "1,2,3,4"), ("type", .text "$storymap"), ("owner", .text "casey")]]⟩]⟩
    let second : Query := ⟨.group, [⟨.and, [.ofEntries
      [("typekeywords", .list ["Atlas"]), ("type", .text "$storymap"), ("owner", .text "casey")]]⟩]⟩
    first.filters.map (Filter.restrict (FieldPolicy.withShortcuts settings.includes)) =
        second.filters.map (Filter.restrict (FieldPolicy.withShortcuts settings.includes)) ∧
      first.criteria .epoch settings.includes = second.criteria .epoch settings.includes := by
  intro settings first second
  have same : first.filters.map (Filter.restrict (FieldPolicy.withShortcuts settings.includes)) =
      second.filters.map (Filter.restrict (FieldPolicy.withShortcuts settings.includes)) := by
    decide
  exact ⟨same, (criteria_eq_of_restrict_eq same .epoch).1⟩

end CatalogSearch
