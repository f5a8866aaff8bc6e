import CatalogSearch.Proofs.Criteria.Concatenation
import CatalogSearch.Proofs.Criteria.WellFormed
import Mathlib.Data.List.Nodup

/-!
# Parameters of portal searches

A field that the settings allow and send as a parameter has the first value of the query that can be
sent (`Portal.lookup_parameters`). Match options and dates cannot, so a field for which a query has
nothing else is not sent, although the texts of the search leave it out as well
(`PortalSearch.mem_parameters_iff`). The parameters of two queries with one list of filters are
those of the first, completed by those of the second (`PortalSearch.parameters_append`).
-/

namespace CatalogSearch

namespace KeyOrder

variable {α : Type}

/-- A key is among those of entries exactly if it is looked up. -/
theorem mem_keys_iff {entries : List (String × α)} {key : String} :
    key ∈ entries.map Prod.fst ↔ (entries.lookup key).isSome = true := by
  rw [List.lookup_isSome_iff, List.mem_map]
  simp only [beq_iff_eq]
  exact exists_congr fun entry => and_congr_right fun _ => eq_comm

/-- Where the value of an entry depends on its key, it does not matter how often a key is put in. -/
theorem lookup_putAll_keyed (find : String → Option α) (keys : List String)
    (entries : List (String × α)) (name : String) :
    (putAll entries (keys.filterMap fun key => (find key).map fun value => (key, value))).lookup
        name =
      if name ∈ keys then (find name).or (entries.lookup name) else entries.lookup name := by
  induction keys generalizing entries with
  | nil => rfl
  | cons key rest ih =>
      cases found : find key with
      | none =>
          rw [List.filterMap_cons_none (by rw [found]; rfl), ih]
          by_cases same : name = key
          · rw [same, found, if_pos List.mem_cons_self, Option.none_or, ite_self]
          · simp only [List.mem_cons, same, false_or]
      | some value =>
          have step : putAll entries ((key, value) :: rest.filterMap fun key =>
              (find key).map fun value => (key, value)) =
            putAll (put key value entries) (rest.filterMap fun key =>
              (find key).map fun value => (key, value)) := rfl
          rw [List.filterMap_cons_some (by rw [found]; rfl), step, ih, lookup_put]
          by_cases same : name = key
          · rw [same, found, if_pos List.mem_cons_self, if_pos rfl]
            split <;> rfl
          · simp only [List.mem_cons, same, false_or, if_false]

/-- Entries in order are the same if every key has the same value in them. -/
theorem eq_of_lookup_eq {first second : List (String × α)} (ascends : Ascends first)
    (others : Ascends second) (same : ∀ key, first.lookup key = second.lookup key) :
    first = second := by
  have order : first.Perm second := by
    apply (List.perm_ext_iff_of_nodup (List.Nodup.of_map Prod.fst (nodup_keys_of_ascends ascends))
      (List.Nodup.of_map Prod.fst (nodup_keys_of_ascends others))).mpr
    rintro ⟨key, value⟩
    rw [← lookup_eq_some_iff (nodup_keys_of_ascends ascends), same,
      lookup_eq_some_iff (nodup_keys_of_ascends others)]
  refine order.eq_of_pairwise (fun one other _ _ before after => ?_)
    (List.pairwise_map.mp ascends) (List.pairwise_map.mp others)
  exact absurd (String.lt_trans before after) (String.lt_irrefl one.1)

end KeyOrder

/-- Whether a condition has a structure of its own: match options, a range or a relative date. -/
def FieldCondition.isStructured : FieldCondition → Bool
  | .options _ => true
  | .range _ => true
  | .relative _ => true
  | _ => false

namespace Portal

/-- A parameter has the first text that the query has for its field. -/
theorem lookup_parameters (settings : PortalSettings) (query : Query) (field : String) :
    (parameters settings query).lookup field =
      if settings.isParameter field && settings.allows field then parameter? query field
      else none := by
  have named : field ∈ settings.parameterFields.filter settings.allows ↔
      (settings.isParameter field && settings.allows field) = true := by
    simp only [List.mem_filter, PortalSettings.isParameter, List.contains_iff_mem,
      Bool.and_eq_true]
  rw [parameters, KeyOrder.sort, KeyOrder.lookup_putAll_keyed, List.lookup_nil, Option.or_none]
  simp only [named]

/-- A condition can be sent when it asks for something and has no structure of its own. -/
theorem parameterText?_isSome_iff (now : Instant) (field : String) {condition : FieldCondition} :
    (parameterText? condition).isSome = true ↔
      condition.tests now field ≠ [] ∧ condition.isStructured = false := by
  cases condition with
  | text value =>
      by_cases term : field = termField <;>
        simp [parameterText?, FieldCondition.tests, FieldCondition.isStructured, term]
  | list values =>
      cases values <;> simp [parameterText?, FieldCondition.tests, FieldCondition.isStructured]
  | _ => simp [parameterText?, FieldCondition.tests, FieldCondition.isStructured]

/-- The parameters of a list, and those of another one for the names that are missing. -/
def completed (given added : List (String × String)) : List (String × String) :=
  KeyOrder.putAll given (added.filter fun entry => (given.lookup entry.1).isNone)

/-- Completed parameters are looked up among those given first, and then among those added. -/
theorem lookup_completed {given added : List (String × String)}
    (distinct : (added.map Prod.fst).Nodup) (name : String) :
    (completed given added).lookup name = (given.lookup name).or (added.lookup name) := by
  have kept : ((added.filter fun entry => (given.lookup entry.1).isNone).map Prod.fst).Nodup :=
    distinct.sublist (List.filter_sublist.map Prod.fst)
  rw [completed, KeyOrder.lookup_putAll kept,
    KeyOrder.lookup_filter (fun key => (given.lookup key).isNone)]
  cases given.lookup name with
  | none => exact Option.or_none
  | some value => rfl

/-- Nothing is completed to nothing only by nothing. -/
theorem completed_eq_nil_iff {given added : List (String × String)} :
    completed given added = [] ↔ given = [] ∧ added = [] := by
  refine ⟨fun none => ?_, fun ⟨first, second⟩ => by rw [first, second]; rfl⟩
  have unnamed (name : String) :
      name ∉ (added.filter fun entry => (given.lookup entry.1).isNone).map Prod.fst ∧
        name ∉ given.map Prod.fst := by
    rw [← not_or, ← KeyOrder.mem_keys_putAll, ← completed, none]
    exact List.not_mem_nil
  have blank : given = [] := List.map_eq_nil_iff.mp
    (List.eq_nil_iff_forall_not_mem.mpr fun name => (unnamed name).2)
  subst blank
  have all : (added.filter fun entry => (([] : List (String × String)).lookup entry.1).isNone) =
      added :=
    List.filter_eq_self.mpr fun _ _ => rfl
  rw [all] at unnamed
  exact ⟨rfl, List.map_eq_nil_iff.mp
    (List.eq_nil_iff_forall_not_mem.mpr fun name => (unnamed name).1)⟩

/-- The parameter of two queries is that of the first, or else that of the second. -/
theorem parameter?_append {first second : Query} (field : String) :
    parameter? (first.append second) field =
      (parameter? first field).or (parameter? second field) := by
  rw [parameter?, Query.conditionsOn, Query.predicates, Query.append, List.flatMap_append,
    List.filterMap_append, List.findSome?_append]
  rfl

end Portal

namespace PortalSearch

/-- The parameters of two queries are those of the first, completed with those of the second. -/
theorem parameters_append {settings : PortalSettings} {now : Instant} {first second : Query} :
    (ofQuery settings now (first.append second)).parameters =
      Portal.completed (ofQuery settings now first).parameters
        (ofQuery settings now second).parameters := by
  have ascends (query : Query) : KeyOrder.Ascends (Portal.parameters settings query) :=
    KeyOrder.ascends_sort _
  apply KeyOrder.eq_of_lookup_eq (ascends _) (KeyOrder.ascends_putAll (ascends first))
  intro field
  have completed : (Portal.completed (Portal.parameters settings first)
      (Portal.parameters settings second)).lookup field = _ :=
    Portal.lookup_completed (KeyOrder.nodup_keys_of_ascends (ascends second)) field
  refine .trans ?_ completed.symm
  simp only [Portal.lookup_parameters, Portal.parameter?_append]
  split <;> rfl

/-- The search for a query with the filters of two is empty if those for both are. -/
theorem isEmpty_append {settings : PortalSettings} {now : Instant} {first second : Query} :
    (ofQuery settings now (first.append second)).isEmpty =
      ((ofQuery settings now first).isEmpty && (ofQuery settings now second).isEmpty) := by
  have merged (one other : Option String) :
      (one.merge bothTexts other).isNone = (one.isNone && other.isNone) := by
    cases one <;> cases other <;> rfl
  have completed (given added : List (String × String)) :
      (Portal.completed given added).isEmpty = (given.isEmpty && added.isEmpty) := by
    rw [Bool.eq_iff_iff, Bool.and_eq_true]
    simp only [List.isEmpty_iff, Portal.completed_eq_nil_iff]
  simp only [isEmpty, text_append (.inl rfl), text_append (.inr rfl), parameters_append, merged,
    completed]
  ac_rfl

/-- **What is sent as a parameter.** A field that is allowed and sent as a parameter is among the
parameters of a search exactly if some predicate has a condition on it that asks for something and
is no match options, range or relative date. The criteria, and so the texts of the search, have
nothing on it in any case. -/
theorem mem_parameters_iff {settings : PortalSettings} {field : String}
    (allowed : settings.allows field = true) (parameter : settings.isParameter field = true)
    (query : Query) (now : Instant) :
    (field ∈ (ofQuery settings now query).parameters.map Prod.fst ↔
        ∃ predicate ∈ query.predicates, ∃ condition, predicate.get? field = some condition ∧
          condition.tests now field ≠ [] ∧ condition.isStructured = false) ∧
      (query.criteria now settings.includes).EveryTest fun other _ => other ≠ field := by
  constructor
  · rw [KeyOrder.mem_keys_iff]
    change ((Portal.parameters settings query).lookup field).isSome = true ↔ _
    rw [Portal.lookup_parameters, if_pos (by rw [parameter, allowed]; rfl), Portal.parameter?,
      List.findSome?_isSome_iff]
    simp only [Query.conditionsOn, List.mem_filterMap, Portal.parameterText?_isSome_iff now field]
    constructor
    · rintro ⟨condition, ⟨predicate, member, held⟩, sent⟩
      exact ⟨predicate, member, condition, held, sent⟩
    · rintro ⟨predicate, member, condition, held, sent⟩
      exact ⟨condition, ⟨predicate, member, held⟩, sent⟩
  · refine query.included_criteria.imp fun {other _} included => ?_
    rintro rfl
    rw [PortalSettings.includes, parameter] at included
    exact Bool.false_ne_true included

/-- Match options on the bounding box come first, and the list behind them is sent. -/
theorem mem_parameters_boundingBox :
    let settings : PortalSettings := .initial
    let query : Query := ⟨.item, [⟨.and, [
      .ofEntries [("bbox", .options (.ofAny ["1,2,3,4"])), ("owner", .text "casey")]]⟩,
      ⟨.or, [.ofEntries [("bbox", .list ["5", "6", "7", "8"])], .ofEntries [("tags", .text "x")]]⟩]⟩
    settings.allows "bbox" = true ∧ settings.isParameter "bbox" = true ∧
      "bbox" ∈ (ofQuery settings .epoch query).parameters.map Prod.fst := by
  intro settings query
  have second : (Predicate.ofEntries [("bbox", .list ["5", "6", "7", "8"])]) ∈ query.predicates :=
    List.mem_cons_of_mem _ List.mem_cons_self
  refine ⟨rfl, rfl, (mem_parameters_iff rfl rfl query .epoch).1.mpr ?_⟩
  exact ⟨_, second, .list ["5", "6", "7", "8"], rfl, List.cons_ne_nil _ _, rfl⟩

/-- Match options on the bounding box are neither sent as a parameter nor written into the texts. -/
theorem options_left_out :
    ¬ ∀ (settings : PortalSettings) (query : Query) (now : Instant) (field : String),
      settings.allows field = true → settings.isParameter field = true → field ≠ typeField →
        field ≠ subFiltersField →
          (∃ predicate ∈ query.predicates, ∃ condition, predicate.get? field = some condition ∧
            condition.tests now field ≠ []) →
              field ∈ (ofQuery settings now query).parameters.map Prod.fst := by
  intro sent
  have boxes := sent .initial
    ⟨.item, [⟨.and, [.ofEntries [("bbox", .options (.ofAny ["1,2,3,4"]))]]⟩]⟩ .epoch "bbox"
    rfl rfl (by decide) (by decide)
    ⟨_, List.mem_cons_self, .options (.ofAny ["1,2,3,4"]), rfl, List.cons_ne_nil _ _⟩
  exact List.not_mem_nil boxes

end PortalSearch

end CatalogSearch
