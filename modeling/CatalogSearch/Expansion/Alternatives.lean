import CatalogSearch.Expansion.Shortcut
import CatalogSearch.Query.Basic

/-!
# Alternatives of a predicate

A predicate may name shortcuts in its condition on `type`, or in the field `subFilters`. It stands
for the alternatives of these shortcuts, and for the types it names itself.
-/

namespace CatalogSearch

/-- The field that shortcuts constrain. -/
def typeField : String := "type"

/-- The field that names shortcuts, with or without the dollar sign. -/
def subFiltersField : String := "subFilters"

/-- A condition on `type`, split into its shortcuts, the condition on the types it names itself, and
the parts that constrain every alternative. -/
structure TypeSelection where
  shortcuts : List String
  rest : Option FieldCondition
  constraints : MatchOptions
deriving DecidableEq

namespace TypeSelection

/-- The selection of a predicate without a condition on `type`. -/
def absent : TypeSelection :=
  ⟨[], none, .empty⟩

/-- The texts that are no shortcuts, as a condition, unless there are none. -/
def restOf (texts : List String) (condition : List String → FieldCondition) :
    Option FieldCondition :=
  let rest := texts.filter fun text => !Shortcut.isShortcut text
  if rest.isEmpty then none else some (condition rest)

/-- Separates the shortcuts that a condition names from what else it asks of the type. -/
def ofCondition : FieldCondition → TypeSelection
  | .text text =>
      if Shortcut.isShortcut text then ⟨[text], none, .empty⟩ else ⟨[], some (.text text), .empty⟩
  | .list texts => ⟨texts.filter Shortcut.isShortcut, restOf texts .list, .empty⟩
  | .options options =>
      let texts := (options.any.map Texts.toList).getD []
      let constraints := { options with any := none }
      ⟨texts.filter Shortcut.isShortcut,
        restOf texts fun rest => .options { constraints with any := some (.many rest) },
        constraints⟩
  | other => ⟨[], some other, .empty⟩

end TypeSelection

namespace Predicate

/-- The shortcuts and the rest of what a predicate asks of the type. -/
def typeSelection (predicate : Predicate) : TypeSelection :=
  match predicate.get? typeField with
  | none => .absent
  | some condition => .ofCondition condition

/-- The names of shortcuts that a condition on `subFilters` holds. -/
def subFilterNames : FieldCondition → List String
  | .text text => [text]
  | .list texts => texts
  | .options options => (options.any.map Texts.toList).getD []
  | _ => []

/-- The shortcut with the given name, which may leave out the dollar sign. -/
def shortcutNamed (name : String) : String :=
  if Shortcut.isShortcut name then name else "$" ++ name

/-- The shortcuts that a predicate names in `subFilters`, if it has that field. -/
def subFilters? (predicate : Predicate) : Option (List String) :=
  (predicate.get? subFiltersField).map fun condition => (subFilterNames condition).map shortcutNamed

/-- The condition that a fragment puts on a field. Conditions on `type` take up the constraints. -/
def fragmentCondition (constraints : MatchOptions) (field : String) (texts : List String) :
    FieldCondition :=
  if field = typeField then
    .options { constraints with any := some (.many texts) }
  else
    .options (.ofAny texts)

/-- Adds the constraints on `type`, unless there are none. -/
def withConstraints (predicate : Predicate) (constraints : MatchOptions) : Predicate :=
  if constraints.isEmpty then predicate else predicate.insert typeField (.options constraints)

/-- Adds the conditions of a fragment. -/
def applyFragment (predicate : Predicate) (constraints : MatchOptions) (fragment : Fragment) :
    Predicate :=
  let extended := predicate.insertAll
    (fragment.map fun (field, texts) => (field, fragmentCondition constraints field texts))
  if (fragment.map Prod.fst).contains typeField then extended
  else extended.withConstraints constraints

/-- The alternatives a predicate stands for: itself when it names no shortcut, and otherwise the
types it names itself and every fragment of every registered shortcut, each with the other
conditions. When that leaves nothing, the other conditions remain. -/
def alternatives (predicate : Predicate) : List Predicate :=
  let selection := predicate.typeSelection
  if selection.shortcuts.isEmpty && (predicate.subFilters?).isNone then
    [predicate]
  else
    let base := (predicate.erase typeField).erase subFiltersField
    let named := selection.rest.toList.map fun rest => base.insert typeField rest
    let shortcuts := selection.shortcuts ++ (predicate.subFilters?).getD []
    let fragments := shortcuts.flatMap fun shortcut => (Shortcut.fragments? shortcut).getD []
    match named ++ fragments.map (base.applyFragment selection.constraints) with
    | [] => [base.withConstraints selection.constraints]
    | first :: others => first :: others

end Predicate

end CatalogSearch
