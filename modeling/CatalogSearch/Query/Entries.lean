import CatalogSearch.Query.Condition

/-!
# Fields with conditions

The fields of a predicate and their conditions, in order. Setting a field that is present leaves it
in its place; a field that is absent is added at the end. Looking up a field afterwards finds what
was set (`FieldEntries.lookup_set`) or nothing (`FieldEntries.lookup_unset`).
-/

namespace CatalogSearch

/-- Fields with their conditions. -/
abbrev FieldEntries := List (String × FieldCondition)

open KeyOrder (lookup_cons)

namespace FieldEntries

/-- The names of the fields, in order. -/
def names (entries : FieldEntries) : List String :=
  entries.map Prod.fst

/-- Sets a field, in place if it is present and at the end otherwise, and returns what it held. -/
def set (field : String) (condition : FieldCondition) :
    FieldEntries → Option FieldCondition × FieldEntries
  | [] => (none, [(field, condition)])
  | (name, present) :: rest =>
      if name = field then
        (some present, (field, condition) :: rest)
      else
        let (previous, entries) := set field condition rest
        (previous, (name, present) :: entries)

/-- Removes the entry for a field, and returns the condition that it held. -/
def unset (field : String) : FieldEntries → Option FieldCondition × FieldEntries
  | [] => (none, [])
  | (name, present) :: rest =>
      if name = field then
        (some present, rest)
      else
        let (previous, entries) := unset field rest
        (previous, (name, present) :: entries)

/-- Setting a field keeps the names, and adds the field at the end if it was absent. -/
theorem names_set (field : String) (condition : FieldCondition) (entries : FieldEntries) :
    names (set field condition entries).2 =
      if field ∈ names entries then names entries else names entries ++ [field] := by
  induction entries with
  | nil => simp [set, names]
  | cons entry rest ih =>
      obtain ⟨name, present⟩ := entry
      by_cases same : name = field
      · simp [set, names, same]
      · have absent : field ≠ name := fun equal => same equal.symm
        simp only [names] at ih
        by_cases member : field ∈ rest.map Prod.fst <;>
          simp [set, names, same, absent, member, ih]

/-- Setting a field repeats no name. -/
theorem nodup_names_set {field : String} {condition : FieldCondition} {entries : FieldEntries}
    (distinct : (names entries).Nodup) : (names (set field condition entries).2).Nodup := by
  rw [names_set]
  split
  · exact distinct
  · rename_i absent
    rw [List.nodup_append]
    exact ⟨distinct, by simp, by grind⟩

/-- A field that is not there yet is set behind all others. -/
theorem set_of_not_mem {field : String} {entries : FieldEntries}
    (absent : field ∉ names entries) (condition : FieldCondition) :
    (set field condition entries).2 = entries ++ [(field, condition)] := by
  induction entries with
  | nil => rfl
  | cons entry rest ih =>
      obtain ⟨name, present⟩ := entry
      have ⟨other, later⟩ := not_or.mp fun member => absent (List.mem_cons.mpr member)
      rw [set, if_neg fun same => other same.symm]
      exact congrArg ((name, present) :: ·) (ih later)

/-- After setting a field, an entry is the one that was set or one from before. -/
theorem mem_set {field : String} {condition : FieldCondition}
    {entry : String × FieldCondition} {entries : FieldEntries}
    (member : entry ∈ (set field condition entries).2) :
    entry = (field, condition) ∨ entry ∈ entries := by
  induction entries with
  | nil => exact .inl (List.mem_singleton.mp member)
  | cons first rest ih =>
      obtain ⟨name, present⟩ := first
      unfold set at member
      split at member
      · exact (List.mem_cons.mp member).imp_right (List.mem_cons_of_mem _)
      · rcases List.mem_cons.mp member with same | later
        · exact .inr (List.mem_cons.mpr (.inl same))
        · exact (ih later).imp_right (List.mem_cons_of_mem _)

/-- Removing a field leaves a part of the names. -/
theorem names_unset_sublist (field : String) (entries : FieldEntries) :
    (names (unset field entries).2).Sublist (names entries) := by
  induction entries with
  | nil => exact .slnil
  | cons entry rest ih =>
      obtain ⟨name, present⟩ := entry
      by_cases same : name = field
      · simp [unset, names, same]
      · simp only [unset, names, same, ↓reduceIte, List.map_cons]
        exact ih.cons_cons name

/-- Removing an entry adds none. -/
theorem mem_unset {field : String} {entry : String × FieldCondition}
    {entries : FieldEntries} (member : entry ∈ (unset field entries).2) : entry ∈ entries := by
  induction entries with
  | nil => exact member
  | cons first rest ih =>
      obtain ⟨name, present⟩ := first
      unfold unset at member
      split at member
      · exact List.mem_cons_of_mem _ member
      · rcases List.mem_cons.mp member with same | later
        · exact List.mem_cons.mpr (.inl same)
        · exact List.mem_cons_of_mem _ (ih later)

/-- Setting a field returns what it held before. -/
theorem set_fst (field : String) (condition : FieldCondition) (entries : FieldEntries) :
    (set field condition entries).1 = entries.lookup field := by
  induction entries with
  | nil => rfl
  | cons entry rest ih =>
      obtain ⟨name, present⟩ := entry
      rw [lookup_cons]
      by_cases same : name = field
      · simp [set, same]
      · have absent : field ≠ name := fun equal => same equal.symm
        simp [set, same, absent, ih]

/-- A field that has been set holds the condition, and every other field what it held. -/
theorem lookup_set (field name : String) (condition : FieldCondition) (entries : FieldEntries) :
    (set field condition entries).2.lookup name =
      if name = field then some condition else entries.lookup name := by
  induction entries with
  | nil => simp [set, lookup_cons]
  | cons entry rest ih =>
      obtain ⟨first, present⟩ := entry
      by_cases same : first = field
      · subst same
        by_cases asked : name = first <;> simp [set, lookup_cons, asked]
      · simp only [set, same, ↓reduceIte, lookup_cons, ih]
        by_cases asked : name = first <;> simp [asked, same]

/-- Removing a field returns what it held. -/
theorem unset_fst (field : String) (entries : FieldEntries) :
    (unset field entries).1 = entries.lookup field := by
  induction entries with
  | nil => rfl
  | cons entry rest ih =>
      obtain ⟨name, present⟩ := entry
      rw [lookup_cons]
      by_cases same : name = field
      · simp [unset, same]
      · have absent : field ≠ name := fun equal => same equal.symm
        simp [unset, same, absent, ih]

/-- A field that is not there holds nothing. -/
theorem lookup_eq_none {field : String} {entries : FieldEntries} (absent : field ∉ names entries) :
    entries.lookup field = none := by
  induction entries with
  | nil => rfl
  | cons entry rest ih =>
      obtain ⟨name, present⟩ := entry
      have ⟨other, later⟩ := not_or.mp fun member => absent (List.mem_cons.mpr member)
      rw [lookup_cons, if_neg other, ih later]

/-- A field that has been removed holds nothing, and every other field what it held. -/
theorem lookup_unset (field name : String) {entries : FieldEntries}
    (distinct : (names entries).Nodup) :
    (unset field entries).2.lookup name = if name = field then none else entries.lookup name := by
  induction entries with
  | nil => simp [unset]
  | cons entry rest ih =>
      obtain ⟨first, present⟩ := entry
      have ⟨absent, tail⟩ := List.nodup_cons.mp distinct
      by_cases same : first = field
      · subst same
        by_cases asked : name = first
        · subst asked
          simpa [unset] using lookup_eq_none absent
        · simp [unset, lookup_cons, asked]
      · simp only [unset, same, ↓reduceIte, lookup_cons, ih tail]
        by_cases asked : name = first <;> simp [asked, same]

end FieldEntries

end CatalogSearch
