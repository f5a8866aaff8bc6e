import CatalogSearch.Query.Error

/-!
# Explaining with lookups

Explaining may ask the group directory and may fail. The result is kept together with the
identifiers that were looked up, in order, up to the failure if there was one.
-/

namespace CatalogSearch

/-- A result, or the reason why there is none, with the identifiers that were looked up. -/
structure Lookups (α : Type) where
  calls : List String
  result : Except QueryError α

namespace Lookups

variable {α β : Type}

/-- A result without any lookup. -/
def done (value : α) : Lookups α :=
  ⟨[], .ok value⟩

/-- An error without any lookup. -/
def fail (error : QueryError) : Lookups α :=
  ⟨[], .error error⟩

/-- One computation after another, which an error of the first leaves out. The lookups of both
count. -/
def andThen (first : Lookups α) (next : α → Lookups β) : Lookups β :=
  match first.result with
  | .error error => ⟨first.calls, .error error⟩
  | .ok value => ⟨first.calls ++ (next value).calls, (next value).result⟩

/-- A computation with its result changed. -/
def map (change : α → β) (lookups : Lookups α) : Lookups β :=
  ⟨lookups.calls, lookups.result.map change⟩

/-- The results for all elements, in order and up to the first failure. How an element is explained
may depend on what was looked up before. -/
def forAll (explain : List String → α → Lookups β) (earlier : List String) :
    List α → Lookups (List β)
  | [] => done []
  | first :: rest =>
      (explain earlier first).andThen fun result =>
        (forAll explain (earlier ++ (explain earlier first).calls) rest).map (result :: ·)

end Lookups

end CatalogSearch
