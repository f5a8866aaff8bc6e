import CatalogSearch.Proofs.Expansion.Fields
import Mathlib.Data.List.Nodup
import Mathlib.Data.List.Perm.Basic

/-!
# Queries in another order

A query can list its filters, their predicates and the fields of these in any order. Where shortcuts
split filters, the order decides where the new filters stand, yet the expansions of rearranged
queries are rearranged queries again (`Query.Rearranged.expand`).
-/

namespace CatalogSearch

/-- Whether two lists have related elements, in some order. -/
def ReorderedBy {α β : Type} (relation : α → β → Prop) (first : List α) (second : List β) : Prop :=
  ∃ middle, first.Perm middle ∧ List.Forall₂ relation middle second

/-- Whether predicates have the same conditions, in some order of their fields. -/
def Predicate.Rearranged (first second : Predicate) : Prop :=
  first.entries.Perm second.entries

/-- Whether two filters have rearranged predicates in any order and combine them alike. -/
structure Filter.Rearranged (first second : Filter) : Prop where
  connective : first.connective = second.connective
  predicates : ReorderedBy Predicate.Rearranged first.predicates second.predicates

/-- Whether two queries have rearranged filters in any order. -/
structure Query.Rearranged (first second : Query) : Prop where
  target : first.target = second.target
  filters : ReorderedBy Filter.Rearranged first.filters second.filters

namespace ReorderedBy

section Laws

variable {α β γ δ : Type} {relation : α → β → Prop} {image : γ → δ → Prop}
  {first : List α} {second : List β}

theorem of_forall₂ (related : List.Forall₂ relation first second) :
    ReorderedBy relation first second :=
  ⟨first, .refl first, related⟩

/-- Elements may be given in another order. -/
theorem of_perm {given : List α} (order : given.Perm first)
    (reordered : ReorderedBy relation first second) : ReorderedBy relation given second :=
  let ⟨middle, further, related⟩ := reordered
  ⟨middle, order.trans further, related⟩

/-- Reordered lists are reordered one behind the other. -/
theorem append {front : List α} {back : List β} (reordered : ReorderedBy relation first second)
    (others : ReorderedBy relation front back) :
    ReorderedBy relation (first ++ front) (second ++ back) :=
  let ⟨_, order, related⟩ := reordered
  let ⟨_, otherOrder, otherRelated⟩ := others
  ⟨_, order.append otherOrder, List.rel_append related otherRelated⟩

/-- Reordered elements make reordered pieces. -/
theorem flatMap (reordered : ReorderedBy relation first second) {pieces : α → List γ}
    {parts : β → List δ} (each : ∀ ⦃element other⦄, relation element other →
      ReorderedBy image (pieces element) (parts other)) :
    ReorderedBy image (first.flatMap pieces) (second.flatMap parts) := by
  obtain ⟨middle, order, related⟩ := reordered
  -- Pieces move along with their elements, and the induction is on the related lists alone.
  refine of_perm (order.flatMap_right pieces) ?_
  clear order
  induction related with
  | nil => exact of_forall₂ .nil
  | cons same _ ih => exact (each same).append ih

/-- Reordered elements are changed to reordered ones. -/
theorem map (reordered : ReorderedBy relation first second) {change : α → γ} {other : β → δ}
    (each : ∀ ⦃element another⦄, relation element another →
      image (change element) (other another)) :
    ReorderedBy image (first.map change) (second.map other) :=
  let ⟨_, order, related⟩ := reordered
  ⟨_, order.map change, List.rel_map each related⟩

/-- Reordered elements that are kept alike are reordered. -/
theorem filter (reordered : ReorderedBy relation first second) {keep : α → Bool}
    {other : β → Bool}
    (each : ∀ ⦃element another⦄, relation element another → keep element = other another) :
    ReorderedBy relation (first.filter keep) (second.filter other) :=
  let ⟨_, order, related⟩ := reordered
  ⟨_, order.filter keep, List.rel_filter (fun _ _ same => by simp [each same]) related⟩

/-- What related elements have in common is the same in both lists, in some order. -/
theorem perm_map (reordered : ReorderedBy relation first second) {measure : α → γ}
    {other : β → γ}
    (each : ∀ ⦃element another⦄, relation element another → measure element = other another) :
    (first.map measure).Perm (second.map other) := by
  obtain ⟨middle, order, related⟩ := reordered
  exact map_eq_of_forall₂ related each ▸ order.map measure

/-- Reordered elements measure the same, in some order. -/
theorem perm_filterMap (reordered : ReorderedBy relation first second) {measure : α → Option γ}
    {other : β → Option γ}
    (each : ∀ ⦃element another⦄, relation element another → measure element = other another) :
    (first.filterMap measure).Perm (second.filterMap other) := by
  have outcomes := (reordered.perm_map each).filterMap id
  rwa [List.filterMap_map, List.filterMap_map] at outcomes

/-- Reordered lists are empty alike. -/
theorem isEmpty_eq (reordered : ReorderedBy relation first second) :
    first.isEmpty = second.isEmpty :=
  let ⟨_, order, related⟩ := reordered
  order.isEmpty_eq.trans (isEmpty_eq_of_forall₂ related)

end Laws

end ReorderedBy

namespace Predicate

/-- Predicates are rearranged when they have the same conditions by field. -/
theorem rearranged_iff {first second : Predicate} :
    first.Rearranged second ↔ ∀ field, first.get? field = second.get? field := by
  have distinct (predicate : Predicate) : predicate.entries.Nodup :=
    List.Nodup.of_map Prod.fst predicate.distinct
  rw [Rearranged, List.perm_ext_iff_of_nodup (distinct first) (distinct second)]
  constructor
  · intro same field
    refine Option.ext fun condition => ?_
    rw [get?_eq_some_iff, get?_eq_some_iff]
    exact same (field, condition)
  · rintro same ⟨field, condition⟩
    rw [← get?_eq_some_iff, same field, get?_eq_some_iff]

namespace Rearranged

variable {first second : Predicate} (rearranged : first.Rearranged second)

include rearranged

theorem get?_eq (field : String) : first.get? field = second.get? field :=
  rearranged_iff.mp rearranged field

/-- Setting a field keeps predicates rearranged. -/
theorem insert (field : String) (condition : FieldCondition) :
    (first.insert field condition).Rearranged (second.insert field condition) := by
  refine rearranged_iff.mpr fun name => ?_
  rw [get?_insert, get?_insert, rearranged.get?_eq]

theorem withoutTypes : first.withoutTypes.Rearranged second.withoutTypes := by
  refine rearranged_iff.mpr fun name => ?_
  rw [get?_withoutTypes, get?_withoutTypes, rearranged.get?_eq]

/-- The alternatives of rearranged predicates are the same and in the same order, up to the order of
their fields. -/
theorem alternatives : List.Forall₂ Predicate.Rearranged first.alternatives second.alternatives :=
  forall₂_alternatives (fun _ _ rearranged => rearranged.insert) rearranged
    rearranged.withoutTypes (rearranged.get?_eq typeField) (rearranged.get?_eq subFiltersField)

theorem expand (now : Instant) : (first.expand now).Rearranged (second.expand now) :=
  List.Perm.map _ rearranged

end Rearranged

end Predicate

namespace Filter

/-- Groups of alternatives in another order become the same filters in another order, except that
a filter of what is kept stands before the others. -/
theorem reorderedBy_regroup (connective : Connective) {first second : List (List Predicate)}
    (reordered : ReorderedBy (List.Forall₂ Predicate.Rearranged) first second) :
    ReorderedBy Filter.Rearranged (regroup connective first) (regroup connective second) := by
  have same ⦃group other : List Predicate⦄
      (related : List.Forall₂ Predicate.Rearranged group other) :
      keeps connective group = keeps connective other := by
    rw [keeps, keeps, related.length_eq]
  have kept : ReorderedBy Predicate.Rearranged (first.filter (keeps connective)).flatten
      (second.filter (keeps connective)).flatten := by
    rw [← List.flatMap_id, ← List.flatMap_id]
    exact (reordered.filter same).flatMap fun _ _ => .of_forall₂
  have moved : ReorderedBy (List.Forall₂ Predicate.Rearranged)
      (first.filter fun group => !keeps connective group)
      (second.filter fun group => !keeps connective group) :=
    reordered.filter fun _ _ related => by rw [same related]
  unfold regroup
  dsimp only
  rw [kept.isEmpty_eq, reordered.isEmpty_eq]
  refine .append ?_ (moved.map fun _ _ related => ⟨rfl, .of_forall₂ related⟩)
  split
  · exact .of_forall₂ .nil
  · exact .of_forall₂ (.cons ⟨rfl, kept⟩ .nil)

/-- Rearranged filters are expanded to rearranged filters, in some order. -/
theorem Rearranged.expand {first second : Filter} (rearranged : first.Rearranged second)
    (now : Instant) : ReorderedBy Filter.Rearranged (first.expand now) (second.expand now) := by
  rw [expand_eq_map_restructure, expand_eq_map_restructure, restructure_eq_regroup,
    restructure_eq_regroup, rearranged.connective]
  have alternatives : ReorderedBy (List.Forall₂ Predicate.Rearranged)
      (first.predicates.map Predicate.alternatives)
      (second.predicates.map Predicate.alternatives) :=
    rearranged.predicates.map fun _ _ predicates => predicates.alternatives
  exact (reorderedBy_regroup second.connective alternatives).map fun _ _ filters =>
    ⟨filters.connective, filters.predicates.map fun _ _ predicates => predicates.expand now⟩

end Filter

/-- The expansions of rearranged queries are rearranged. -/
theorem Query.Rearranged.expand {first second : Query} (rearranged : first.Rearranged second)
    (now : Instant) : (first.expand now).Rearranged (second.expand now) :=
  ⟨rearranged.target, rearranged.filters.flatMap fun _ _ filters => filters.expand now⟩

end CatalogSearch
