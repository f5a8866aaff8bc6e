import CatalogSearch.Proofs.Expansion.Alternatives

/-!
# Restructuring filters

Expansion replaces a filter by filters of alternatives and then expands conditions one by one. The
replacing filters hold together exactly when the filter does, a predicate holding with any of its
alternatives, whatever holds of predicates (`Filter.all_holdsUnder_expand`). The predicates of an
expanded query are alternatives (`Query.origin_of_mem_expand`), and their conditions
depend on the instant only for fields that hold instants (`Query.expand_eq_of_matching`).
-/

namespace CatalogSearch

namespace Filter

/-- The filter with the conditions of its predicates expanded. -/
def expandConditions (now : Instant) (filter : Filter) : Filter :=
  ⟨filter.connective, filter.predicates.map (Predicate.expand now)⟩

/-- The filters that replace a filter, before their conditions are expanded. -/
def restructure (filter : Filter) : List Filter :=
  let groups := filter.predicates.map Predicate.alternatives
  let kept := (groups.filter (keeps filter.connective)).flatten
  let moved := groups.filter fun group => !keeps filter.connective group
  let rest :=
    if kept.isEmpty && !filter.predicates.isEmpty then [] else [⟨filter.connective, kept⟩]
  rest ++ moved.map fun group => ⟨.or, group⟩

/-- Expansion restructures a filter and then expands conditions one by one. -/
theorem expand_eq_map_restructure (now : Instant) (filter : Filter) :
    filter.expand now = filter.restructure.map (expandConditions now) := by
  unfold expand restructure
  dsimp only
  rw [List.map_append, List.map_map]
  congr 1
  split <;> rfl

/-- The predicates of a restructured filter are alternatives of its predicates. -/
theorem mem_alternatives_of_mem_restructure {filter replaced : Filter}
    (member : replaced ∈ filter.restructure) {alternative : Predicate}
    (inside : alternative ∈ replaced.predicates) :
    ∃ predicate ∈ filter.predicates, alternative ∈ predicate.alternatives := by
  unfold restructure at member
  dsimp only at member
  rcases List.mem_append.mp member with rest | moved
  · split at rest
    · exact absurd rest List.not_mem_nil
    · rw [List.mem_singleton] at rest
      subst rest
      obtain ⟨group, kept, listed⟩ := List.mem_flatten.mp inside
      obtain ⟨predicate, given, rfl⟩ := List.mem_map.mp (List.mem_filter.mp kept).1
      exact ⟨predicate, given, listed⟩
  · obtain ⟨group, listed, rfl⟩ := List.mem_map.mp moved
    obtain ⟨predicate, given, rfl⟩ := List.mem_map.mp (List.mem_filter.mp listed).1
    exact ⟨predicate, given, inside⟩

/-- Whether a filter holds when its predicates have the given truth values. -/
def holdsUnder (truth : Predicate → Bool) (filter : Filter) : Bool :=
  filter.connective.combine (filter.predicates.map truth)

/-- The alternatives that a conjunction keeps: those of the predicates that have only one. -/
def single (predicates : List Predicate) : List Predicate :=
  ((predicates.map Predicate.alternatives).filter (keeps .and)).flatten

section Truth

variable {truth : Predicate → Bool} {predicates : List Predicate}

/-- A conjunction holds if every predicate does. -/
theorem holdsUnder_and : (Filter.mk .and predicates).holdsUnder truth = true ↔
    ∀ predicate ∈ predicates, truth predicate = true := by
  simp only [holdsUnder, Connective.combine, List.all_map, List.all_eq_true, Function.comp_apply,
    id_eq]

/-- A disjunction holds if one of its predicates does. -/
theorem holdsUnder_or : (Filter.mk .or predicates).holdsUnder truth = true ↔
    ∃ predicate ∈ predicates, truth predicate = true := by
  simp only [holdsUnder, Connective.combine, List.any_map, List.any_eq_true, Function.comp_apply,
    id_eq]

/-- In a conjunction only a single alternative stays. -/
theorem keeps_and {group : List Predicate} :
    keeps .and group = true ↔ ∃ alternative, group = [alternative] := by
  have conjunction : keeps .and group = (group.length == 1) := Bool.false_or _
  rw [conjunction, beq_iff_eq, List.length_eq_one_iff]

/-- The predicates that stay in a conjunction are the single alternatives. -/
theorem mem_single_iff {alternative : Predicate} : alternative ∈ single predicates ↔
    ∃ predicate ∈ predicates, predicate.alternatives = [alternative] := by
  simp only [single, List.mem_flatten, List.mem_filter, List.mem_map, keeps_and]
  constructor
  · rintro ⟨_, ⟨⟨predicate, given, rfl⟩, other, only⟩, member⟩
    rw [only, List.mem_singleton] at member
    exact ⟨predicate, given, member ▸ only⟩
  · rintro ⟨predicate, given, only⟩
    exact ⟨_, ⟨⟨predicate, given, rfl⟩, alternative, only⟩, by rw [only]; exact List.mem_cons_self⟩

/-- The filters that replace a conjunction: the alternatives it keeps, which are left out when all
predicates move, and a disjunction for every predicate that moves. -/
theorem mem_restructure_and_iff {replaced : Filter} :
    replaced ∈ (Filter.mk .and predicates).restructure ↔
      (replaced = ⟨.and, single predicates⟩ ∧ (single predicates = [] → predicates = [])) ∨
        ∃ predicate ∈ predicates, (∀ alternative, predicate.alternatives ≠ [alternative]) ∧
          replaced = ⟨.or, predicate.alternatives⟩ := by
  unfold restructure
  dsimp only
  rw [List.mem_append]
  apply or_congr
  · rw [← single]
    by_cases stays : single predicates = [] → predicates = []
    · have condition : ((single predicates).isEmpty && !predicates.isEmpty) = false := by
        simpa using stays
      rw [condition, if_neg Bool.false_ne_true, List.mem_singleton]
      exact (and_iff_left stays).symm
    · have condition : ((single predicates).isEmpty && !predicates.isEmpty) = true := by
        simpa using stays
      rw [condition, if_pos rfl]
      exact iff_of_false List.not_mem_nil fun both => stays both.2
  · simp only [List.mem_map, List.mem_filter, Bool.not_eq_true', Bool.eq_false_iff, ne_eq,
      keeps_and, not_exists]
    constructor
    · rintro ⟨_, ⟨⟨predicate, given, rfl⟩, several⟩, rfl⟩
      exact ⟨predicate, given, several, rfl⟩
    · rintro ⟨predicate, given, several, rfl⟩
      exact ⟨_, ⟨⟨predicate, given, rfl⟩, several⟩, rfl⟩

/-- A disjunction takes up the alternatives of its predicates. -/
theorem restructure_or (predicates : List Predicate) : (Filter.mk .or predicates).restructure =
    [⟨.or, predicates.flatMap Predicate.alternatives⟩] := by
  have kept : (predicates.map Predicate.alternatives).filter (keeps .or) =
      predicates.map Predicate.alternatives :=
    List.filter_eq_self.mpr fun _ _ => rfl
  have moved : ((predicates.map Predicate.alternatives).filter fun group => !keeps .or group) =
      [] :=
    List.filter_eq_nil_iff.mpr fun _ _ => Bool.false_ne_true
  -- The disjunction is never left out: each of its predicates has alternatives to contribute.
  have content : ((predicates.flatMap Predicate.alternatives).isEmpty && !predicates.isEmpty) =
      false := by
    cases predicates with
    | nil => rfl
    | cons first rest => simp [first.alternatives_ne_nil]
  unfold restructure
  dsimp only
  rw [kept, moved, ← List.flatMap_def, content]
  rfl

/-- A restructured filter holds when its connective combines the truth values of its predicates, of
which each holds with one of its alternatives. -/
theorem all_holdsUnder_restructure (truth : Predicate → Bool) (filter : Filter) :
    filter.restructure.all (holdsUnder truth) =
      filter.holdsUnder fun predicate => predicate.alternatives.any truth := by
  obtain ⟨connective, predicates⟩ := filter
  rw [Bool.eq_iff_iff]
  cases connective with
  | or =>
      rw [restructure_or, List.all_cons, List.all_nil, Bool.and_true, holdsUnder_or, holdsUnder_or]
      simp only [List.mem_flatMap, List.any_eq_true]
      constructor
      · rintro ⟨alternative, ⟨predicate, given, member⟩, holds⟩
        exact ⟨predicate, given, alternative, member, holds⟩
      · rintro ⟨predicate, given, alternative, member, holds⟩
        exact ⟨alternative, ⟨predicate, given, member⟩, holds⟩
  | and =>
      rw [holdsUnder_and, List.all_eq_true]
      simp only [mem_restructure_and_iff, List.any_eq_true]
      constructor
      · intro every predicate given
        -- A predicate with one alternative stays in the conjunction, which then is not left out.
        by_cases only : ∃ alternative, predicate.alternatives = [alternative]
        · obtain ⟨alternative, only⟩ := only
          have kept : alternative ∈ single predicates := mem_single_iff.mpr ⟨predicate, given, only⟩
          have remains := every ⟨.and, single predicates⟩
            (.inl ⟨rfl, fun empty => absurd (empty ▸ kept) List.not_mem_nil⟩)
          exact ⟨alternative, only ▸ List.mem_cons_self, holdsUnder_and.mp remains _ kept⟩
        · exact holdsUnder_or.mp (every ⟨.or, predicate.alternatives⟩
            (.inr ⟨predicate, given, not_exists.mp only, rfl⟩))
      · rintro every replaced (⟨rfl, _⟩ | ⟨predicate, given, _, rfl⟩)
        · apply holdsUnder_and.mpr
          intro alternative kept
          obtain ⟨predicate, given, only⟩ := mem_single_iff.mp kept
          obtain ⟨other, member, holds⟩ := every predicate given
          rw [only, List.mem_singleton] at member
          exact member ▸ holds
        · exact holdsUnder_or.mpr (every predicate given)

end Truth

/-- **Restructuring keeps the boolean structure.** Whatever the truth values of predicates, the
filters that replace a filter all hold when its connective combines its predicates to true, a
predicate holding with any of its expanded alternatives. -/
theorem all_holdsUnder_expand (now : Instant) (truth : Predicate → Bool) (filter : Filter) :
    (filter.expand now).all (holdsUnder truth) = filter.holdsUnder fun predicate =>
      predicate.alternatives.any fun alternative => truth (alternative.expand now) := by
  have each (replaced : Filter) : (replaced.expandConditions now).holdsUnder truth =
      replaced.holdsUnder fun alternative => truth (alternative.expand now) := by
    rw [holdsUnder, expandConditions, List.map_map]
    rfl
  rw [expand_eq_map_restructure, List.all_map, ← all_holdsUnder_restructure]
  congr 1
  funext replaced
  exact each replaced

end Filter

namespace Query

/-- An expanded query has the split filters with their conditions expanded. -/
theorem expand_filters (now : Instant) (query : Query) : (query.expand now).filters =
    (query.filters.flatMap Filter.restructure).map (Filter.expandConditions now) := by
  have each : Filter.expand now = fun filter =>
      filter.restructure.map (Filter.expandConditions now) :=
    funext (Filter.expand_eq_map_restructure now)
  rw [List.map_flatMap, ← each]
  rfl

/-- The predicates of an expanded query are alternatives with their conditions expanded. -/
theorem origin_of_mem_expand {now : Instant} {query : Query} {predicate : Predicate}
    (member : predicate ∈ (query.expand now).predicates) :
    ∃ original ∈ query.predicates, ∃ alternative ∈ original.alternatives,
      predicate = alternative.expand now := by
  obtain ⟨filter, filterMember, predicateMember⟩ := List.mem_flatMap.mp member
  rw [expand_filters] at filterMember
  obtain ⟨replaced, replacedMember, rfl⟩ := List.mem_map.mp filterMember
  obtain ⟨source, sourceMember, replacedMember⟩ := List.mem_flatMap.mp replacedMember
  obtain ⟨alternative, inside, rfl⟩ := List.mem_map.mp predicateMember
  obtain ⟨original, originalMember, listed⟩ :=
    Filter.mem_alternatives_of_mem_restructure replacedMember inside
  exact ⟨original, List.mem_flatMap.mpr ⟨source, sourceMember, originalMember⟩, alternative,
    listed, rfl⟩

end Query

section Instants

variable {first second : Instant}

/-- On a field that is matched, expansion does not depend on the instant. -/
theorem FieldCondition.expand_eq_of_matching {field : String}
    (matching : FieldKind.ofName field = .matching) (condition : FieldCondition) :
    condition.expand second field = condition.expand first field := by
  unfold expand
  rw [matching]
  cases condition <;> rfl

/-- A predicate whose fields are all matched is expanded alike at all instants. -/
theorem Predicate.expand_eq_of_matching {predicate : Predicate}
    (matching : ∀ entry ∈ (predicate.expand first).entries,
      FieldKind.ofName entry.1 = .matching) :
    predicate.expand second = predicate.expand first := by
  unfold expand mapConditions
  congr 1
  apply List.map_congr_left
  intro entry member
  obtain ⟨field, condition⟩ := entry
  have kind : FieldKind.ofName field = .matching :=
    matching (field, condition.expand first field)
      (mem_entries_expand_iff.mpr ⟨condition, member, rfl⟩)
  exact Prod.ext rfl (FieldCondition.expand_eq_of_matching kind condition)

/-- An expanded query without dates and without fields that are used as they are is the same at
every instant. -/
theorem Query.expand_eq_of_matching {query : Query}
    (matching : ∀ filter ∈ (query.expand first).filters, ∀ predicate ∈ filter.predicates,
      ∀ entry ∈ predicate.entries, FieldKind.ofName entry.1 = .matching) :
    query.expand second = query.expand first := by
  have filters : (query.expand second).filters = (query.expand first).filters := by
    rw [expand_filters] at matching ⊢
    rw [expand_filters]
    apply List.map_congr_left
    intro replaced member
    unfold Filter.expandConditions
    congr 1
    apply List.map_congr_left
    intro predicate inside
    exact Predicate.expand_eq_of_matching (matching _ (List.mem_map.mpr ⟨replaced, member, rfl⟩) _
      (List.mem_map.mpr ⟨predicate, inside, rfl⟩))
  exact congrArg (Query.mk query.target) filters

end Instants

end CatalogSearch
