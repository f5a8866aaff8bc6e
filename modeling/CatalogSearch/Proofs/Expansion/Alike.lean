import CatalogSearch.Proofs.Expansion.Fields
import Mathlib.Data.List.Forall2

/-!
# Queries that ask for the same sets

Match options list their texts, in some order and with repetitions. Queries are alike if they differ
only in how match options list the same texts, except where these name types and shortcuts. Then so
are their expansions (`Query.Alike.expand`).
-/

namespace CatalogSearch

/-- Whether two lists hold the same texts. -/
def SameTexts (first second : List String) : Prop :=
  ∀ text, text ∈ first ↔ text ∈ second

instance (first second : List String) : Decidable (SameTexts first second) :=
  decidable_of_iff (first ⊆ second ∧ second ⊆ first)
    ⟨fun both _ => ⟨fun held => both.1 held, fun held => both.2 held⟩,
      fun same => ⟨fun text => (same text).mp, fun text => (same text).mpr⟩⟩

/-- Whether one text or several hold the same texts. -/
def Texts.Alike (first second : Texts) : Prop :=
  SameTexts first.toList second.toList

/-- Whether options have the same parts, and these the same texts. -/
structure MatchOptions.Alike (first second : MatchOptions) : Prop where
  any : Option.Rel Texts.Alike first.any second.any
  all : Option.Rel Texts.Alike first.all second.all
  not : Option.Rel Texts.Alike first.not second.not
  exact : Option.Rel Texts.Alike first.exact second.exact

/-- Whether conditions on a field are the same, up to the way in which options list their texts. On
the fields that name types and shortcuts they must be the same. -/
inductive FieldCondition.Alike (field : String) : FieldCondition → FieldCondition → Prop where
  | same (condition : FieldCondition) : Alike field condition condition
  | options {first second : MatchOptions} (types : field ≠ typeField)
      (shortcuts : field ≠ subFiltersField) (alike : first.Alike second) :
      Alike field (.options first) (.options second)

/-- Whether entries constrain the same fields in the same order, by conditions that are alike. -/
def FieldEntries.Alike (first second : FieldEntries) : Prop :=
  List.Forall₂ (fun entry other => entry.1 = other.1 ∧ FieldCondition.Alike entry.1 entry.2 other.2)
    first second

/-- Whether two predicates constrain the same fields in the same order, by conditions that are
alike. -/
def Predicate.Alike (first second : Predicate) : Prop :=
  first.entries.Alike second.entries

/-- Whether two filters combine predicates that are alike, in one order. -/
structure Filter.Alike (first second : Filter) : Prop where
  connective : first.connective = second.connective
  predicates : List.Forall₂ Predicate.Alike first.predicates second.predicates

/-- Whether two queries have filters that are alike, in one order. -/
structure Query.Alike (first second : Query) : Prop where
  target : first.target = second.target
  filters : List.Forall₂ Filter.Alike first.filters second.filters

/-- Conditions that are alike expand alike. -/
theorem FieldCondition.Alike.expand {field : String} {first second : FieldCondition}
    (alike : FieldCondition.Alike field first second) (now : Instant) :
    FieldCondition.Alike field (first.expand now field) (second.expand now field) := by
  cases alike with
  | same condition => exact .same _
  | options types shortcuts alike =>
      cases kind : FieldKind.ofName field <;> simp only [FieldCondition.expand, kind] <;>
        exact .options types shortcuts alike

namespace FieldEntries.Alike

variable {first second : FieldEntries} (alike : first.Alike second)

include alike

/-- Setting a field keeps entries alike. -/
theorem set (field : String) (condition : FieldCondition) :
    FieldEntries.Alike (FieldEntries.set field condition first).2
      (FieldEntries.set field condition second).2 := by
  induction alike with
  | nil => exact .cons ⟨rfl, .same condition⟩ .nil
  | @cons entry other _ _ same later ih =>
      obtain ⟨name, present⟩ := entry
      obtain ⟨_, replaced⟩ := other
      obtain ⟨rfl, conditions⟩ := same
      unfold FieldEntries.set
      split
      · exact .cons ⟨rfl, .same condition⟩ later
      · exact .cons ⟨rfl, conditions⟩ ih

/-- Removing a field keeps entries alike. -/
theorem unset (field : String) :
    FieldEntries.Alike (FieldEntries.unset field first).2 (FieldEntries.unset field second).2 := by
  induction alike with
  | nil => exact .nil
  | @cons entry other _ _ same later ih =>
      obtain ⟨name, present⟩ := entry
      obtain ⟨_, removed⟩ := other
      obtain ⟨rfl, conditions⟩ := same
      unfold FieldEntries.unset
      split
      · exact later
      · exact .cons ⟨rfl, conditions⟩ ih

/-- On the fields that name types and shortcuts, entries that are alike are the same. -/
theorem restrict_eq {keep : String → Bool}
    (naming : ∀ field, keep field = true → field = typeField ∨ field = subFiltersField) :
    first.restrict keep = second.restrict keep := by
  induction alike with
  | nil => rfl
  | @cons entry other _ _ same _ ih =>
      obtain ⟨name, condition⟩ := entry
      obtain ⟨_, replaced⟩ := other
      obtain ⟨rfl, conditions⟩ := same
      cases kept : keep name with
      | false => rw [restrict_cons_of_deleted kept, restrict_cons_of_deleted kept, ih]
      | true =>
          rw [restrict_cons_of_kept kept, restrict_cons_of_kept kept, ih]
          cases conditions with
          | same condition => rfl
          | options types shortcuts _ =>
              exact absurd (naming name kept) (not_or.mpr ⟨types, shortcuts⟩)

end FieldEntries.Alike

namespace Predicate.Alike

variable {first second : Predicate} (alike : first.Alike second)

include alike

theorem insert (field : String) (condition : FieldCondition) :
    (first.insert field condition).Alike (second.insert field condition) :=
  FieldEntries.Alike.set alike field condition

theorem withoutTypes : first.withoutTypes.Alike second.withoutTypes :=
  FieldEntries.Alike.unset (FieldEntries.Alike.unset alike typeField) subFiltersField

/-- Predicates that are alike have alternatives that are alike. -/
theorem alternatives : List.Forall₂ Predicate.Alike first.alternatives second.alternatives := by
  let keep : String → Bool := fun field => field == typeField || field == subFiltersField
  have naming : ∀ field, keep field = true → field = typeField ∨ field = subFiltersField := by
    simp [keep]
  have same : first.restrict keep = second.restrict keep :=
    eq_of_entries (FieldEntries.Alike.restrict_eq alike naming)
  exact forall₂_alternatives (fun _ _ alike => alike.insert) alike alike.withoutTypes
    (get?_congr same (by simp [keep])) (get?_congr same (by simp [keep]))

/-- Expanding keeps predicates alike. -/
theorem expand (now : Instant) : (first.expand now).Alike (second.expand now) := by
  unfold Predicate.Alike Predicate.expand Predicate.mapConditions FieldEntries.Alike
  rw [List.forall₂_map_left_iff, List.forall₂_map_right_iff]
  refine List.Forall₂.imp ?_ alike
  rintro ⟨name, condition⟩ ⟨_, other⟩ ⟨rfl, conditions⟩
  exact ⟨rfl, conditions.expand now⟩

end Predicate.Alike

/-- Filters that are alike are expanded to filters that are. -/
theorem Filter.Alike.expand {first second : Filter} (alike : first.Alike second) (now : Instant) :
    List.Forall₂ Filter.Alike (first.expand now) (second.expand now) := by
  have related : first.RelatedBy Predicate.Alike second := ⟨alike.connective, alike.predicates⟩
  have expanded := related.expand (fun _ _ alike => alike.alternatives)
    fun _ _ alike => alike.expand now
  exact expanded.imp fun _ _ related => ⟨related.connective, related.predicates⟩

/-- Queries that are alike expand alike. -/
theorem Query.Alike.expand {first second : Query} (alike : first.Alike second) (now : Instant) :
    (first.expand now).Alike (second.expand now) :=
  ⟨alike.target, List.rel_flatMap alike.filters fun _ _ alike => alike.expand now⟩

end CatalogSearch
