import CatalogSearch.Proofs.Expansion.Restructuring

/-!
# Normal queries

A query is normal when it names no shortcuts, spells out the conditions of fields that are matched
and has no relative dates in fields that hold instants. Expansion gives normal queries, and it
leaves exactly these as they are, whatever the instant (`Query.expand_normal`).
-/

namespace CatalogSearch

namespace FieldCondition

/-- Whether a condition is a value without match options. -/
def isTerse : FieldCondition → Bool
  | .text _ | .list _ | .flag _ | .number _ => true
  | _ => false

/-- Whether a condition is a relative date. -/
def isRelative : FieldCondition → Bool
  | .relative _ => true
  | _ => false

/-- Whether a condition on types is a shortcut, a list, or match options that ask for a shortcut. -/
def mayNameShortcut : FieldCondition → Bool
  | .text value => Shortcut.isShortcut value
  | .list _ => true
  | .options value => ((value.any.map Texts.toList).getD []).any Shortcut.isShortcut
  | _ => false

end FieldCondition

/-- A predicate names no shortcuts, has match options on the fields that are matched, and no
relative dates on the fields that hold instants. -/
structure Predicate.IsNormal (predicate : Predicate) : Prop where
  withoutSubFilters : predicate.get? subFiltersField = none
  plain : ∀ condition, predicate.get? typeField = some condition →
    condition.mayNameShortcut = false
  spelledOut : ∀ field condition, predicate.get? field = some condition →
    FieldKind.ofName field = .matching → condition.isTerse = false
  resolved : ∀ field condition, predicate.get? field = some condition →
    FieldKind.ofName field = .date → condition.isRelative = false

/-- A query all of whose predicates are normal. -/
def Query.IsNormal (query : Query) : Prop :=
  ∀ predicate ∈ query.predicates, predicate.IsNormal

namespace FieldCondition

variable {now : Instant} {field : String} {condition : FieldCondition}

/-- Expansion leaves a condition as it is unless it is terse and matched, or relative and an
instant. -/
theorem expand_eq_self (spelledOut : FieldKind.ofName field = .matching → condition.isTerse = false)
    (resolved : FieldKind.ofName field = .date → condition.isRelative = false) :
    condition.expand now field = condition := by
  unfold expand
  cases kind : FieldKind.ofName field with
  | passThrough => rfl
  | date =>
      have resolved := resolved kind
      cases condition with
      | relative value => exact (Bool.false_ne_true resolved.symm).elim
      | _ => rfl
  | matching =>
      have spelledOut := spelledOut kind
      cases condition with
      | options value => rfl
      | range value => rfl
      | relative value => rfl
      | _ => exact (Bool.false_ne_true spelledOut.symm).elim

/-- Expanding leaves no terse condition on a field that is matched. -/
theorem isTerse_expand (condition : FieldCondition)
    (matching : FieldKind.ofName field = .matching) :
    (condition.expand now field).isTerse = false := by
  unfold expand
  rw [matching]
  cases condition <;> rfl

/-- Expanding leaves no relative date on a field of dates. -/
theorem isRelative_expand (condition : FieldCondition) (date : FieldKind.ofName field = .date) :
    (condition.expand now field).isRelative = false := by
  unfold expand
  rw [date]
  cases condition <;> rfl

/-- The text of a number is no shortcut, so a number in place of a type names none. -/
theorem isShortcut_text (number : Number) : Shortcut.isShortcut number.text = false := by
  rw [Shortcut.isShortcut, Number.text, String.toList_ofList, Bool.eq_false_iff, ne_eq, beq_iff_eq]
  intro first
  have numeral := Number.isNumeral_of_mem_characters (List.mem_of_mem_head? first)
  unfold IsNumeral at numeral
  exact absurd numeral (by decide)

/-- Expansion adds no shortcuts to the texts of a condition. -/
theorem isShortcut_of_mem_choices_expand
    (plain : ∀ text ∈ condition.choices, Shortcut.isShortcut text = false) :
    ∀ text ∈ (condition.expand now field).choices, Shortcut.isShortcut text = false := by
  unfold expand
  cases FieldKind.ofName field with
  | passThrough => exact plain
  | date => cases condition <;> exact plain
  | matching =>
      cases condition with
      | flag value =>
          intro text member
          rw [List.mem_singleton.mp member]
          cases value <;> decide
      | number value =>
          intro text member
          rw [List.mem_singleton.mp member]
          exact isShortcut_text value
      | _ => exact plain

/-- Match options on types may name a shortcut only among their texts. -/
theorem mayNameShortcut_eq_false (spelledOut : condition.isTerse = false)
    (plain : ∀ text ∈ condition.choices, Shortcut.isShortcut text = false) :
    condition.mayNameShortcut = false := by
  cases condition with
  | options value => exact List.any_eq_false.mpr fun text member => by simp [plain text member]
  | range value => rfl
  | relative value => rfl
  | _ => exact (Bool.false_ne_true spelledOut.symm).elim

/-- A condition that cannot name a shortcut has none to choose from. -/
theorem isShortcut_of_mem_choices (plain : condition.mayNameShortcut = false) :
    ∀ text ∈ condition.choices, Shortcut.isShortcut text = false := by
  intro text member
  cases condition with
  | text value => rwa [List.mem_singleton.mp member]
  | list values => exact (Bool.false_ne_true plain.symm).elim
  | options value => exact Bool.eq_false_iff.mpr (List.any_eq_false.mp plain text member)
  | _ => exact absurd member List.not_mem_nil

end FieldCondition

namespace Predicate

section Alternatives

variable {predicate : Predicate}

theorem get?_withoutTypes_subFiltersField : predicate.withoutTypes.get? subFiltersField = none := by
  rw [get?_withoutTypes, if_pos (.inr rfl)]

theorem subFiltersField_ne_typeField : subFiltersField ≠ typeField := by
  decide

/-- A predicate with its own types in place of all names no shortcuts. -/
theorem not_namesShortcuts_named {rest : FieldCondition}
    (given : predicate.typeSelection.rest = some rest) :
    ¬(predicate.withoutTypes.insert typeField rest).NamesShortcuts := by
  rw [not_namesShortcuts_iff]
  constructor
  · rw [get?_insert, if_neg subFiltersField_ne_typeField, get?_withoutTypes_subFiltersField]
  · intro condition held
    rw [get?_insert, if_pos rfl] at held
    obtain rfl := Option.some.inj held
    exact isShortcut_of_typeSelection given

/-- A predicate with a fragment in place of its types names no shortcuts. -/
theorem not_namesShortcuts_applyFragment {constraints : MatchOptions} {fragment : Fragment}
    (regular : fragment.IsRegular) :
    ¬(predicate.withoutTypes.applyFragment constraints fragment).NamesShortcuts := by
  rw [not_namesShortcuts_iff]
  constructor
  · have absent : subFiltersField ∉ fragment.map Prod.fst := by
      intro inside
      obtain ⟨entry, constrained, same⟩ := List.mem_map.mp inside
      have fields := regular.fields entry constrained
      rw [same] at fields
      exact absurd fields (by decide)
    rw [get?_applyFragment_of_not_mem regular absent, get?_withoutTypes_subFiltersField]
  · intro condition held
    obtain ⟨⟨field, texts⟩, constrained, rfl⟩ := List.mem_map.mp regular.typed
    rw [get?_applyFragment_of_mem regular constrained] at held
    obtain rfl := Option.some.inj held
    exact regular.plain _ constrained

/-- A predicate with constraints in place of its types names no shortcuts. -/
theorem not_namesShortcuts_withConstraints {constraints : MatchOptions}
    (withoutAny : constraints.any = none) :
    ¬(predicate.withoutTypes.withConstraints constraints).NamesShortcuts := by
  rw [not_namesShortcuts_iff]
  constructor
  · rw [get?_withConstraints_of_ne _ _ subFiltersField_ne_typeField,
      get?_withoutTypes_subFiltersField]
  · intro condition held
    rw [get?_withConstraints] at held
    split at held
    · obtain rfl := Option.some.inj held
      have none : (FieldCondition.options constraints).choices = [] := by
        rw [FieldCondition.choices, withoutAny, Option.map_none, Option.getD_none]
      intro text member
      exact absurd (none ▸ member) List.not_mem_nil
    · rw [get?_withoutTypes, if_pos (.inl rfl)] at held
      exact absurd held.symm (Option.some_ne_none condition)

/-- The alternatives of a predicate name no shortcuts. -/
theorem not_namesShortcuts_of_mem_alternatives {alternative : Predicate}
    (member : alternative ∈ predicate.alternatives) : ¬alternative.NamesShortcuts := by
  by_cases names : predicate.NamesShortcuts
  · rcases (mem_alternatives_iff names).mp member with ⟨rest, given, rfl⟩ |
      ⟨fragment, inside, rfl⟩ | ⟨_, _, rfl⟩
    · exact not_namesShortcuts_named given
    · exact not_namesShortcuts_applyFragment (isRegular_of_mem_fragments inside)
    · exact not_namesShortcuts_withConstraints predicate.any_constraints
  · rw [alternatives_of_not_namesShortcuts names, List.mem_singleton] at member
    rwa [member]

end Alternatives

/-- Expanding the conditions of a predicate that names no shortcuts gives a normal predicate. -/
theorem isNormal_expand {predicate : Predicate} (now : Instant)
    (plain : ¬predicate.NamesShortcuts) : (predicate.expand now).IsNormal := by
  obtain ⟨absent, plain⟩ := not_namesShortcuts_iff.mp plain
  constructor
  · rw [get?_expand, absent, Option.map_none]
  · intro condition held
    rw [get?_expand] at held
    obtain ⟨original, given, rfl⟩ := Option.map_eq_some_iff.mp held
    exact FieldCondition.mayNameShortcut_eq_false (FieldCondition.isTerse_expand original rfl)
      (FieldCondition.isShortcut_of_mem_choices_expand (plain original given))
  · intro field condition held matching
    rw [get?_expand] at held
    obtain ⟨original, _, rfl⟩ := Option.map_eq_some_iff.mp held
    exact FieldCondition.isTerse_expand original matching
  · intro field condition held date
    rw [get?_expand] at held
    obtain ⟨original, _, rfl⟩ := Option.map_eq_some_iff.mp held
    exact FieldCondition.isRelative_expand original date

/-- A normal predicate is its only alternative. -/
theorem IsNormal.alternatives_eq {predicate : Predicate} (normal : predicate.IsNormal) :
    predicate.alternatives = [predicate] := by
  apply alternatives_of_not_namesShortcuts
  rw [not_namesShortcuts_iff]
  exact ⟨normal.withoutSubFilters, fun condition held =>
    FieldCondition.isShortcut_of_mem_choices (normal.plain condition held)⟩

/-- Expansion leaves the conditions of a normal predicate as they are. -/
theorem IsNormal.expand_eq {predicate : Predicate} (normal : predicate.IsNormal) (now : Instant) :
    predicate.expand now = predicate := by
  have entries : (predicate.expand now).entries = predicate.entries := by
    apply (List.map_congr_left _).trans (List.map_id _)
    intro entry member
    have held := get?_eq_some_iff.mpr member
    exact Prod.ext rfl (FieldCondition.expand_eq_self (normal.spelledOut entry.1 entry.2 held)
      (normal.resolved entry.1 entry.2 held))
  cases predicate
  exact Predicate.mk.injEq _ _ _ _ ▸ entries

end Predicate

namespace Filter

/-- A filter of normal predicates is restructured to itself. -/
theorem restructure_of_normal {filter : Filter}
    (normal : ∀ predicate ∈ filter.predicates, predicate.IsNormal) :
    filter.restructure = [filter] := by
  have alone : filter.predicates.map Predicate.alternatives =
      filter.predicates.map fun predicate => [predicate] :=
    List.map_congr_left fun predicate member => (normal predicate member).alternatives_eq
  have stay : ∀ group ∈ filter.predicates.map Predicate.alternatives,
      keeps filter.connective group = true := by
    intro group member
    rw [alone] at member
    obtain ⟨predicate, _, rfl⟩ := List.mem_map.mp member
    exact Bool.or_true _
  have kept : (filter.predicates.map Predicate.alternatives).filter (keeps filter.connective) =
      filter.predicates.map fun predicate => [predicate] :=
    (List.filter_eq_self.mpr stay).trans alone
  have moved : ((filter.predicates.map Predicate.alternatives).filter fun group =>
      !keeps filter.connective group) = [] := by
    apply List.filter_eq_nil_iff.mpr
    intro group member
    rw [stay group member]
    exact Bool.false_ne_true
  unfold restructure
  dsimp only
  rw [kept, moved, ← List.flatMap_def, List.flatMap_singleton', Bool.and_not_self,
    if_neg Bool.false_ne_true]
  rfl

/-- A filter of normal predicates is its own expansion. -/
theorem expand_of_normal {filter : Filter} (now : Instant)
    (normal : ∀ predicate ∈ filter.predicates, predicate.IsNormal) :
    filter.expand now = [filter] := by
  have same : filter.predicates.map (Predicate.expand now) = filter.predicates := by
    apply (List.map_congr_left _).trans (List.map_id _)
    intro predicate member
    exact (normal predicate member).expand_eq now
  rw [expand_eq_map_restructure, restructure_of_normal normal, List.map_singleton,
    expandConditions, same]

end Filter

namespace Query

/-- An expanded query is normal. -/
theorem isNormal_expand (now : Instant) (query : Query) : (query.expand now).IsNormal := by
  intro predicate member
  obtain ⟨original, _, alternative, listed, rfl⟩ := origin_of_mem_expand member
  exact Predicate.isNormal_expand now (Predicate.not_namesShortcuts_of_mem_alternatives listed)

/-- Expansion leaves a normal query as it is. -/
theorem IsNormal.expand_eq {query : Query} (normal : query.IsNormal) (now : Instant) :
    query.expand now = query := by
  have alone : query.filters.map (Filter.expand now) =
      query.filters.map fun filter => [filter] := by
    apply List.map_congr_left
    intro filter filterMember
    apply Filter.expand_of_normal
    intro predicate member
    exact normal predicate (List.mem_flatMap.mpr ⟨filter, filterMember, member⟩)
  rw [expand, List.flatMap_def, alone, ← List.flatMap_def, List.flatMap_singleton']

/-- **Normal form.** Expanding a query gives a normal query, and a query is its own expansion, at
any instant, exactly when it is normal. So expanding again, also later, changes nothing. -/
theorem expand_normal (query other : Query) (first second : Instant) :
    (query.expand first).IsNormal ∧ (other.expand second = other ↔ other.IsNormal) ∧
      (query.expand first).expand second = query.expand first := by
  refine ⟨isNormal_expand first query, ⟨?_, fun normal => normal.expand_eq second⟩,
    (isNormal_expand first query).expand_eq second⟩
  -- A query that expansion leaves unchanged is itself the result of an expansion.
  intro fixed
  rw [← fixed]
  exact isNormal_expand second other

end Query

end CatalogSearch
