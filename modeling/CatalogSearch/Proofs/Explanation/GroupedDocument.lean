import CatalogSearch.Explanation.Derivation

/-!
# Documents with their groups

Explaining treats the groups of a document as if they were one of its fields. The document that has
them as a field differs from the given one on that field only (`Document.value?_withGroups`).
-/

namespace CatalogSearch

/-- A list of texts is compared by these texts. -/
theorem Json.comparands_ofStrings (texts : List String) :
    (Json.ofStrings texts).comparands = texts := by
  induction texts with
  | nil => rfl
  | cons first rest ih => exact congrArg (first :: ·) ih

namespace Document

/-- The document with a member set to a canonical value. -/
def withMember (document : Document) (key : String) (value : Json) (canonical : value.IsCanonical) :
    Document where
  members := KeyOrder.put key value document.members
  canonical := by
    refine ⟨KeyOrder.ascends_put document.canonical.1, Json.membersCanonical_iff.mpr ?_⟩
    intro member inside
    rcases KeyOrder.mem_put inside with new | old
    · rw [new]
      exact canonical
    · exact Json.membersCanonical_iff.mp document.canonical.2 member old

/-- The document without a member. -/
def withoutMember (document : Document) (key : String) : Document where
  members := document.members.filter fun member => member.1 ≠ key
  canonical := by
    have kept : (document.members.filter fun member => member.1 ≠ key).Sublist document.members :=
      List.filter_sublist
    refine ⟨document.canonical.1.sublist (kept.map Prod.fst), Json.membersCanonical_iff.mpr ?_⟩
    intro member inside
    exact Json.membersCanonical_iff.mp document.canonical.2 member (kept.subset inside)

/-- The document with the identifiers of its groups as a field, if it has an identifier by which the
directory finds them, and without that field otherwise. -/
def withGroups (directory : GroupDirectory) (document : Document) : Document :=
  match (document.get? idField).bind Json.asString? with
  | none => document.withoutMember groupField
  | some id =>
      match directory id with
      | .ok groups =>
          document.withMember groupField (.ofStrings groups.ids) (Json.isCanonical_ofStrings _)
      | .error _ => document.withoutMember groupField

/-- A document with a member set holds it, and its other members as before. -/
theorem get?_withMember {document : Document} {key : String} {value : Json}
    {canonical : value.IsCanonical} (name : String) :
    (document.withMember key value canonical).get? name =
      if name = key then some value else document.get? name :=
  KeyOrder.lookup_put key name value document.members

/-- A document with a member removed holds the others as before. -/
theorem get?_withoutMember {document : Document} {key : String} (name : String) :
    (document.withoutMember key).get? name = if name = key then none else document.get? name := by
  refine (KeyOrder.lookup_filter (fun other => other ≠ key) name document.members).trans ?_
  simp only [decide_eq_true_eq, ite_not]
  rfl

variable {directory : GroupDirectory} {document : Document}

/-- The groups do not change the other fields. -/
theorem value?_withGroups {field : String} (other : field ≠ groupField) :
    (document.withGroups directory).value? field = document.value? field := by
  have same : (document.withGroups directory).get? field = document.get? field := by
    unfold withGroups
    split
    · rw [get?_withoutMember, if_neg other]
    · split
      · rw [get?_withMember, if_neg other]
      · rw [get?_withoutMember, if_neg other]
  rw [value?, value?, same]

/-- A document without an identifier has no groups. -/
theorem value?_withGroups_of_none
    (anonymous : (document.get? idField).bind Json.asString? = none) :
    (document.withGroups directory).value? groupField = none := by
  have missing : (document.withGroups directory).get? groupField = none := by
    rw [withGroups, anonymous]
    dsimp only
    rw [get?_withoutMember, if_pos rfl]
  rw [value?, missing]

/-- A document with an identifier has the groups that the directory finds. -/
theorem value?_withGroups_of_some {id : String} {groups : ItemGroups}
    (named : (document.get? idField).bind Json.asString? = some id)
    (found : directory id = .ok groups) :
    (document.withGroups directory).value? groupField = some (.ofStrings groups.ids) := by
  have present : (document.withGroups directory).get? groupField =
      some (.ofStrings groups.ids) := by
    rw [withGroups, named]
    dsimp only
    rw [found]
    dsimp only
    rw [get?_withMember, if_pos rfl]
  rw [value?, present]
  rfl

end Document

end CatalogSearch
