import CatalogSearch.Ogc.Expression
import CatalogSearch.Portal.Search
import CatalogSearch.Proofs.Criteria.Truth
import CatalogSearch.Proofs.Syntax.Combination

/-!
# Criteria of concatenated queries

Filters are expanded and lowered one by one, so the criteria of two queries with one list of filters
are those of both, one after the other (`Query.groups_append`). Evaluating them is evaluating both
(`Criteria.matches_of_append`), and every backend joins the texts that it writes for both
(`PortalSearch.text_append`, `Ogc.expression_append`).
-/

namespace CatalogSearch

/-- The query for what the first query asks for, with the filters of both. -/
def Query.append (first second : Query) : Query :=
  ⟨first.target, first.filters ++ second.filters⟩

section Criteria

variable {now : Instant} {first second : Query}

/-- A query with the filters of two is expanded like both. -/
theorem Query.expand_append :
    (first.append second).expand now = (first.expand now).append (second.expand now) := by
  rw [expand, append, List.flatMap_append]
  rfl

/-- A query with the filters of two is lowered to the groups of both. -/
theorem Query.groups_append {policy : FieldPolicy} :
    ((first.append second).criteria now policy).groups =
      (first.criteria now policy).groups ++ (second.criteria now policy).groups := by
  rw [criteria, expand_append]
  exact List.filterMap_append

/-- A query with the filters of two asks for nothing if neither does. -/
theorem Query.isEmpty_criteria_append {policy : FieldPolicy} :
    ((first.append second).criteria now policy).isEmpty =
      ((first.criteria now policy).isEmpty && (second.criteria now policy).isEmpty) := by
  rw [Bool.eq_iff_iff, Bool.and_eq_true]
  simp only [Criteria.isEmpty, groups_append, List.isEmpty_iff, List.append_eq_nil_iff]

/-- Where all elements of two lists are tried without an error, so are those of their
concatenation. -/
theorem allPass_append {α ε : Type} {test : α → Except ε Bool} {front back : List α}
    {one other : Bool} (passed : allPass test front = .ok one)
    (others : allPass test back = .ok other) :
    allPass test (front ++ back) = .ok (one && other) := by
  induction front with
  | nil =>
      obtain rfl := Except.ok.inj passed
      exact others
  | cons head rest ih =>
      rw [List.cons_append, allPass]
      rw [allPass] at passed
      cases outcome : test head with
      | error error =>
          rw [outcome] at passed
          cases passed
      | ok result =>
          rw [outcome] at passed
          cases result with
          | false =>
              obtain rfl := Except.ok.inj passed
              rfl
          | true => exact ih passed

/-- Criteria with the groups of two are evaluated like both, where both are evaluated. -/
theorem Criteria.matches_of_append {document : Document} {front back whole : Criteria}
    (joined : whole.groups = front.groups ++ back.groups) {one other : Bool}
    (matched : front.matches document = .ok one) (others : back.matches document = .ok other) :
    whole.matches document = .ok (one && other) := by
  rw [Criteria.matches, joined]
  exact allPass_append matched others

end Criteria

/-- The text that says what two texts say. -/
def bothTexts (first second : String) : String :=
  first ++ " AND " ++ second

/-- Joined lists of texts are joined with one more separator. -/
theorem Grammar.intercalate_append (between : List Char) {front back : List (List Char)}
    (some : front ≠ []) (others : back ≠ []) : between.intercalate (front ++ back) =
      between.intercalate front ++ between ++ between.intercalate back := by
  obtain ⟨first, rest, rfl⟩ := List.exists_cons_of_ne_nil some
  obtain ⟨second, more, rfl⟩ := List.exists_cons_of_ne_nil others
  rw [List.cons_append, intercalate_cons, intercalate_cons, intercalate_cons, List.flatMap_append,
    List.flatMap_cons]
  simp only [List.append_assoc]

namespace Portal

/-- Only when there are no texts with content, nothing is joined. -/
theorem topLevel_eq (texts : List (List Char)) : topLevel texts =
    if texts.filter (fun text => !text.isEmpty) = [] then none
    else some (String.ofList
      ((separator .and).intercalate (texts.filter fun text => !text.isEmpty))) := by
  unfold topLevel
  split
  · rename_i blank
    split
    · rfl
    · rename_i some
      have content : ∀ text ∈ texts.filter (fun text => !text.isEmpty), text ≠ [] :=
        fun text member => by simpa using (List.mem_filter.mp member).2
      exact absurd blank (Grammar.intercalate_ne_nil some content)
  · rename_i content
    split
    · rename_i none
      rw [none] at content
      exact absurd rfl content
    · rfl

/-- Joining all texts is joining what is joined of both lists, or keeping what there is of one. -/
theorem topLevel_append (front back : List (List Char)) :
    topLevel (front ++ back) = (topLevel front).merge bothTexts (topLevel back) := by
  rw [topLevel_eq, topLevel_eq front, topLevel_eq back, List.filter_append]
  by_cases blank : front.filter (fun text => !text.isEmpty) = []
  · rw [blank, List.nil_append, if_pos rfl]
    split <;> rfl
  · rw [if_neg blank, if_neg (List.append_ne_nil_of_left_ne_nil blank _)]
    by_cases none : back.filter (fun text => !text.isEmpty) = []
    · rw [none, List.append_nil, if_pos rfl]
      rfl
    · rw [if_neg none, Grammar.intercalate_append _ blank none, String.ofList_append,
        String.ofList_append]
      rfl

/-- Parts put one after the other have the texts of all of them. -/
theorem foldr_append_eq {α : Type} (write : α → Parts) (elements : List α) :
    elements.foldr (fun element parts => (write element).append parts) .empty =
      ⟨elements.flatMap fun element => (write element).query,
        elements.flatMap fun element => (write element).exact⟩ := by
  induction elements with
  | nil => rfl
  | cons first rest ih => rw [List.foldr_cons, ih, Parts.append, List.flatMap_cons,
      List.flatMap_cons]

end Portal

section Texts

variable {now : Instant} {first second : Query}

/-- The two texts of a search say what those of its parts say. -/
theorem PortalSearch.text_append {settings : PortalSettings} {text : PortalSearch → Option String}
    (either : text = query ∨ text = exact) :
    text (ofQuery settings now (first.append second)) =
      (text (ofQuery settings now first)).merge bothTexts (text (ofQuery settings now second)) := by
  rcases either with rfl | rfl <;>
    simp only [ofQuery, ofCriteria, Query.groups_append, Portal.foldr_append_eq,
      List.flatMap_append, Portal.topLevel_append]

/-- The expression that says what two expressions say, of which an empty one says nothing. -/
def Ogc.bothExpressions (first second : String) : String :=
  if first.isEmpty then second else if second.isEmpty then first else bothTexts first second

theorem Ogc.groupText_ne_nil (group : CriteriaGroup) : groupText group ≠ [] :=
  List.cons_ne_nil _ _

/-- An expression is empty exactly when no group has content. -/
theorem Ogc.isEmpty_joined {groups : List CriteriaGroup} :
    (String.ofList ((separator .and).intercalate
      ((groups.map groupText).filter fun text => text != enclosed []))).isEmpty = true ↔
        (groups.map groupText).filter (fun text => text != enclosed []) = [] := by
  rw [String.isEmpty_iff, ← String.toList_inj, String.toList_ofList]
  constructor
  · intro blank
    by_contra some
    apply Grammar.intercalate_ne_nil some ?_ blank
    intro text member
    obtain ⟨group, _, rfl⟩ := List.mem_map.mp (List.mem_filter.mp member).1
    exact groupText_ne_nil group
  · intro none
    rw [none]
    rfl

/-- The expression for a query with the filters of two is joined from those for both. -/
theorem Ogc.expression_append {settings : OgcSettings} :
    expression settings now (first.append second) =
      bothExpressions (expression settings now first) (expression settings now second) := by
  rw [expression, expression, expression, expressionOf, Query.groups_append, List.map_append,
    List.filter_append, expressionOf, expressionOf, bothExpressions]
  split
  · rename_i blank
    rw [isEmpty_joined.mp blank, List.nil_append]
  · rename_i some
    rw [isEmpty_joined] at some
    split
    · rename_i blank
      rw [isEmpty_joined.mp blank, List.append_nil]
    · rename_i others
      rw [isEmpty_joined] at others
      rw [Grammar.intercalate_append _ some others, String.ofList_append, String.ofList_append]
      rfl

end Texts

end CatalogSearch
