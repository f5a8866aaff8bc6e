import CatalogSearch.Json.Printer
import CatalogSearch.Text.KeyOrder

/-!
# Canonical values

In a canonical value the members of every object are ordered by key and no key is repeated. Making a
value canonical keeps the last of the members with one key (`Json.isCanonical_canonical`).
-/

namespace CatalogSearch

namespace Json

mutual

/-- The value with the members of all its objects ordered by key. -/
def canonical : Json → Json
  | .array items => .array (canonicalItems items)
  | .object members => .object (KeyOrder.sort (canonicalMembers members))
  | .null => .null
  | .bool flag => .bool flag
  | .number value => .number value
  | .string text => .string text

/-- The canonical forms of the items of an array. -/
def canonicalItems : List Json → List Json
  | [] => []
  | item :: rest => item.canonical :: canonicalItems rest

/-- Members with canonical values, in their order. -/
def canonicalMembers : List (String × Json) → List (String × Json)
  | [] => []
  | (key, value) :: rest => (key, value.canonical) :: canonicalMembers rest

end

mutual

/-- Whether the keys of every object within a value ascend. -/
def IsCanonical : Json → Prop
  | .array items => ItemsCanonical items
  | .object members => KeyOrder.Ascends members ∧ MembersCanonical members
  | .null => True
  | .bool _ => True
  | .number _ => True
  | .string _ => True

/-- Every item is canonical. -/
def ItemsCanonical : List Json → Prop
  | [] => True
  | item :: rest => item.IsCanonical ∧ ItemsCanonical rest

/-- Every member has a canonical value. -/
def MembersCanonical : List (String × Json) → Prop
  | [] => True
  | (_, value) :: rest => value.IsCanonical ∧ MembersCanonical rest

end

/-- A list of items is canonical if each of them is. -/
theorem itemsCanonical_iff {items : List Json} :
    ItemsCanonical items ↔ ∀ item ∈ items, item.IsCanonical := by
  induction items with
  | nil => simp [ItemsCanonical]
  | cons item rest ih => simp [ItemsCanonical, ih]

/-- An array of strings is canonical. -/
theorem isCanonical_ofStrings (texts : List String) : (ofStrings texts).IsCanonical := by
  refine itemsCanonical_iff.mpr fun item member => ?_
  obtain ⟨text, _, rfl⟩ := List.mem_map.mp member
  exact trivial

/-- A list of members is canonical if the value of each is. -/
theorem membersCanonical_iff {members : List (String × Json)} :
    MembersCanonical members ↔ ∀ member ∈ members, member.2.IsCanonical := by
  induction members with
  | nil => simp [MembersCanonical]
  | cons member rest ih => simp [MembersCanonical, ih]

/-- Ordering canonical members by key leaves them canonical. -/
theorem membersCanonical_sort {members : List (String × Json)}
    (canonical : MembersCanonical members) : MembersCanonical (KeyOrder.sort members) := by
  rw [membersCanonical_iff] at canonical ⊢
  intro member sorted
  rcases KeyOrder.mem_putAll sorted with none | given
  · exact absurd none List.not_mem_nil
  · exact canonical member given

mutual

/-- The canonical form of a value is canonical. -/
theorem isCanonical_canonical : (json : Json) → json.canonical.IsCanonical
  | .array items => itemsCanonical_canonicalItems items
  | .object members =>
      ⟨KeyOrder.ascends_sort _, membersCanonical_sort (membersCanonical_canonicalMembers members)⟩
  | .null => trivial
  | .bool _ => trivial
  | .number _ => trivial
  | .string _ => trivial

theorem itemsCanonical_canonicalItems : (items : List Json) → ItemsCanonical (canonicalItems items)
  | [] => trivial
  | item :: rest => ⟨isCanonical_canonical item, itemsCanonical_canonicalItems rest⟩

theorem membersCanonical_canonicalMembers :
    (members : List (String × Json)) → MembersCanonical (canonicalMembers members)
  | [] => trivial
  | (_, value) :: rest => ⟨isCanonical_canonical value, membersCanonical_canonicalMembers rest⟩

end

mutual

/-- A canonical value is its own canonical form. -/
theorem canonical_of_isCanonical : {json : Json} → json.IsCanonical → json.canonical = json
  | .array _, items => by rw [canonical, canonicalItems_of_itemsCanonical items]
  | .object _, ⟨ascends, members⟩ => by
      rw [canonical, canonicalMembers_of_membersCanonical members,
        KeyOrder.sort_of_ascends ascends]
  | .null, _ => rfl
  | .bool _, _ => rfl
  | .number _, _ => rfl
  | .string _, _ => rfl

/-- Canonical items are left as they are. -/
theorem canonicalItems_of_itemsCanonical :
    {items : List Json} → ItemsCanonical items → canonicalItems items = items
  | [], _ => rfl
  | _ :: _, ⟨item, rest⟩ => by
      rw [canonicalItems, canonical_of_isCanonical item, canonicalItems_of_itemsCanonical rest]

/-- Canonical members are left as they are. -/
theorem canonicalMembers_of_membersCanonical :
    {members : List (String × Json)} → MembersCanonical members →
      canonicalMembers members = members
  | [], _ => rfl
  | _ :: _, ⟨value, rest⟩ => by
      rw [canonicalMembers, canonical_of_isCanonical value,
        canonicalMembers_of_membersCanonical rest]

end

end Json

end CatalogSearch
