import CatalogSearch.Query.Basic

/-!
# Query errors

What can go wrong where queries are read, explained or sent. A service that is asked on the way may
fail with any of these errors.
-/

namespace CatalogSearch

/-- Why nothing becomes of a query. -/
inductive QueryError where
  | storage (cause : String)
  | invalidPredicate (cause : String)
  | unsupportedTarget (target : EntityType)
  | notImplemented (subject : String)
  | collaborator (cause : String)
  | settings (cause : String)
  | serialization (cause : String)
deriving DecidableEq

/-- The words for an error. -/
def QueryError.message : QueryError → String
  | .storage cause => "IO error: " ++ cause
  | .invalidPredicate cause => "Invalid predicate: " ++ cause
  | .unsupportedTarget target => "Unsupported target entity: " ++ target.name
  | .notImplemented subject => "Not implemented: " ++ subject
  | .collaborator cause => "Collaborator error: " ++ cause
  | .settings cause => "Config error: " ++ cause
  | .serialization cause => "Serialization error: " ++ cause

end CatalogSearch
