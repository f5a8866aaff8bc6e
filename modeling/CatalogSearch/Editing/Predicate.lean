import CatalogSearch.Expansion.Basic

/-!
# Editing predicates

A predicate is edited one step at a time. A step that is refused leaves it as it was.
-/

namespace CatalogSearch

/-- One step of editing a predicate. -/
inductive PredicateEdit where
  | insert (field : String) (condition : FieldCondition)
  | set (field : String) (condition : FieldCondition)
  | remove (field : String)
  | parse (text : String)
  | collect (entries : FieldEntries)
  | expand (now : Instant)

/-- What a step of editing returns. -/
inductive PredicateOutcome where
  | done
  | previous (condition : Option FieldCondition)
  | refused (cause : Predicate.ParseError)

namespace PredicateEdit

/-- Takes a step of editing: sets a field, with or without returning the condition it had, removes a
field, reads a new predicate, collects the entries of the predicate and others, or expands it. -/
def apply (predicate : Predicate) : PredicateEdit → PredicateOutcome × Predicate
  | .insert field condition =>
      let (previous, edited) := predicate.replace field condition
      (.previous previous, edited)
  | .set field condition => (.done, predicate.insert field condition)
  | .remove field =>
      let (previous, edited) := predicate.remove field
      (.previous previous, edited)
  | .parse text =>
      match Predicate.parse text with
      | .ok parsed => (.done, parsed)
      | .error cause => (.refused cause, predicate)
  | .collect entries => (.done, Predicate.ofEntries (predicate.entries ++ entries))
  | .expand now => (.done, predicate.expand now)

/-- The predicate after a sequence of steps. -/
def run (predicate : Predicate) (edits : List PredicateEdit) : Predicate :=
  edits.foldl (fun predicate edit => (apply predicate edit).2) predicate

end PredicateEdit

end CatalogSearch
