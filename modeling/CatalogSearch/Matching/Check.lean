/-!
# Set conditions

What it means that the values of a field meet the options of a condition.
-/

namespace CatalogSearch

/-- Whether one of the options is among the values. -/
def meetsAny (options values : List String) : Bool :=
  options.any fun option => values.contains option

/-- The values contain every option. -/
def meetsAll (options values : List String) : Bool :=
  options.all fun option => values.contains option

/-- Whether none of the options is among the values. -/
def meetsNone (options values : List String) : Bool :=
  !meetsAny options values

/-- One of the options is among the values exactly if some option is a value. -/
theorem meetsAny_iff {options values : List String} :
    meetsAny options values = true ↔ ∃ option ∈ options, option ∈ values := by
  simp [meetsAny]

/-- All options are among the values exactly if each of them is a value. -/
theorem meetsAll_iff {options values : List String} :
    meetsAll options values = true ↔ ∀ option ∈ options, option ∈ values := by
  simp [meetsAll]

/-- None of the options is among the values exactly if no option is a value. -/
theorem meetsNone_iff {options values : List String} :
    meetsNone options values = true ↔ ∀ option ∈ options, option ∉ values := by
  simp [meetsNone, meetsAny]

end CatalogSearch
