import CatalogSearch.Proofs.Explanation.Outcome

/-!
# Rechecking explanations

An explanation holds all that its verdicts rest on. Its filters are those of the expanded query,
each with the position of the filter it comes from; every reason came out as the texts it records
say, and these are what the document has for the field; every verdict follows from the reasons below
it (`Query.rechecks_of_explainThrough`).
-/

namespace CatalogSearch

/-- What a comparison says about the texts of a field and those that are asked for. -/
def Comparison.Holds (values requirement : List String) : Comparison → Prop
  | .includesAny => ∃ text ∈ values, text ∈ requirement
  | .includesAll => requirement ⊆ values
  | .excludes => values.Disjoint requirement
  | .present => False

/-- Whether a reason came out as the texts it records say. -/
def Reason.IsAccurate (reason : Reason) : Prop :=
  reason.matched = true ↔ reason.comparison.Holds reason.values reason.requirement

/-- What a reason records: that there is nothing to compare, or the texts of the field of a
document. The groups of a document are those that a directory has for its identifier. -/
inductive Reason.RestsOn (directory : GroupDirectory) (document : Document) (reason : Reason) :
    Prop where
  | missing (unmet : reason.comparison = .present) (other : reason.field ≠ groupField)
      (absent : document.value? reason.field = none)
  | anonymous (unmet : reason.comparison = .present) (group : reason.field = groupField)
      (unnamed : document.identifier? = none)
  | value {value : Json} (compared : reason.comparison ≠ .present)
      (other : reason.field ≠ groupField) (held : document.value? reason.field = some value)
      (values : reason.values = value.comparands)
  | groups {id : String} {groups : ItemGroups} (compared : reason.comparison ≠ .present)
      (group : reason.field = groupField) (named : document.identifier? = some id)
      (found : directory id = .ok groups)
      (values : reason.values =
        (groups.admin ++ groups.member ++ groups.other).map GroupReference.id)

/-- Whether the reasons for a predicate can be rechecked, and its verdict from them. -/
structure PredicateExplanation.Rechecks (directory : GroupDirectory) (document : Document)
    (explanation : PredicateExplanation) : Prop where
  verdict : explanation.matched = explanation.reasons.all Reason.matched
  ordered : ∃ blocks, explanation.reasons = blocks.flatten ∧
    List.Forall₂ (fun field block => ∀ reason ∈ block, reason.field = field)
      explanation.predicate.fields blocks
  accurate : ∀ reason ∈ explanation.reasons, reason.IsAccurate
  grounded : ∀ reason ∈ explanation.reasons, reason.RestsOn directory document

/-- Whether the verdict on a filter follows from those on its predicates. -/
structure FilterExplanation.Rechecks (explanation : FilterExplanation) : Prop where
  predicates : explanation.reasons.map PredicateExplanation.predicate =
    explanation.filter.predicates
  verdict : explanation.matched = explanation.filter.connective.combine
    (explanation.reasons.map PredicateExplanation.matched)

namespace QueryExplanation

/-- The explanations of all predicates, in order. -/
def parts (explanation : QueryExplanation) : List PredicateExplanation :=
  explanation.reasons.flatMap FilterExplanation.reasons

/-- The lookups for the predicates before a position. -/
def lookupsBefore (explanation : QueryExplanation) (position : Nat) : List String :=
  ((explanation.parts.take position).flatMap fun part => part.predicate.entries).flatMap
    (Explain.asked explanation.document)

/-- Whether an explanation can be rechecked at every level, each predicate with the groups that its
own lookup found. -/
structure Rechecks (source : GroupSource) (now : Instant) (explanation : QueryExplanation) :
    Prop where
  filters : explanation.reasons.map (fun part => (part.source, part.filter)) =
    explanation.query.filters.zipIdx.flatMap fun (filter, position) =>
      (filter.expand now).map fun expanded => (position, expanded)
  everySource : ∀ position < explanation.query.filters.length,
    position ∈ explanation.reasons.map FilterExplanation.source
  ascending : (explanation.reasons.map FilterExplanation.source).Pairwise (· ≤ ·)
  ofFilters : ∀ part ∈ explanation.reasons, FilterExplanation.Rechecks part
  ofPredicates : ∀ (position : Nat) (part : PredicateExplanation),
    explanation.parts[position]? = some part →
      part.Rechecks (source (explanation.lookupsBefore position)) explanation.document
  verdict : explanation.matched = explanation.reasons.all FilterExplanation.matched
  summary : explanation.summary = explanation.parts.flatMap PredicateExplanation.reasons

end QueryExplanation

/-- The engine finds some text of a requirement exactly where the comparison holds. -/
theorem meetsAny_iff_holds {values requirement : List String} :
    meetsAny requirement values = true ↔ Comparison.includesAny.Holds values requirement := by
  rw [meetsAny_iff, Comparison.Holds]
  constructor <;> rintro ⟨text, given, found⟩ <;> exact ⟨text, found, given⟩

theorem meetsAll_iff_holds {values requirement : List String} :
    meetsAll requirement values = true ↔ Comparison.includesAll.Holds values requirement :=
  meetsAll_iff

theorem meetsNone_iff_holds {values requirement : List String} :
    meetsNone requirement values = true ↔ Comparison.excludes.Holds values requirement := by
  rw [meetsNone_iff]
  exact ⟨fun apart text found given => apart text given found,
    fun apart text given found => apart found given⟩

namespace Explain

/-- What a reason among those for a value reports. -/
structure Reports (field : String) (value : Option Json) (reason : Reason) : Prop where
  field : reason.field = field
  accurate : reason.IsAccurate
  missing : reason.comparison = .present → value = none
  compared : reason.comparison ≠ .present →
    ∃ held, value = some held ∧ reason.values = held.comparands

/-- A missing value is reported by a reason that names the field only. -/
theorem reports_missing (field : String) (information : Option Json) :
    Reports field none ((Reason.missing field).informed information) where
  field := rfl
  accurate := iff_of_false Bool.false_ne_true not_false
  missing _ := rfl
  compared other := absurd rfl other

/-- A reason that compares reports its comparison, if it matched exactly where that holds. -/
theorem reports_compared {field : String} {comparison : Comparison} {value : Json}
    {requirement : List String} {matched : Bool} (compared : comparison ≠ .present)
    (outcome : matched = true ↔ comparison.Holds value.comparands requirement)
    (information : Option Json) : Reports field (some value)
      ((Reason.compared field comparison value.comparands requirement matched).informed
        information) where
  field := rfl
  accurate := outcome
  missing unmet := absurd unmet compared
  compared _ := ⟨value, rfl, rfl⟩

/-- Every reason reports a comparison with the value, or that there is none. -/
theorem reports_of_mem_reasons {field : String} {options : MatchOptions} {value : Option Json}
    {information : Option Json} {reason : Reason}
    (member : reason ∈ reasons field options value information) : Reports field value reason := by
  unfold reasons at member
  split at member
  · exact absurd member List.not_mem_nil
  · cases value with
    | none =>
        rw [List.mem_singleton.mp member]
        exact reports_missing field information
    | some value =>
        obtain ⟨reason, compared, rfl⟩ := List.mem_map.mp member
        simp only [comparisons, List.mem_append, Option.mem_toList, Option.map_eq_some_iff,
          Option.ite_none_left_eq_some, Option.some.injEq] at compared
        rcases compared with (⟨texts, _, rfl⟩ | ⟨_, rfl⟩) | ⟨texts, _, rfl⟩
        · exact reports_compared Comparison.noConfusion meetsAny_iff_holds information
        · exact reports_compared Comparison.noConfusion meetsAll_iff_holds information
        · exact reports_compared Comparison.noConfusion meetsNone_iff_holds information

section Field

variable {directory : GroupDirectory} {document : Document}

/-- The reasons on groups are accurate and rest on what the lookup found. -/
theorem restsOn_of_groupReasons {options : MatchOptions} {block : List Reason} {reason : Reason}
    (explained : (groupReasons directory document options).result = .ok block)
    (member : reason ∈ block) :
    reason.field = groupField ∧ reason.IsAccurate ∧ reason.RestsOn directory document := by
  cases named : document.identifier? with
  | none =>
      rw [groupReasons_of_anonymous named] at explained
      cases explained
      obtain rfl := List.mem_singleton.mp member
      have report := reports_missing groupField none
      exact ⟨rfl, report.accurate, .anonymous rfl rfl named⟩
  | some id =>
      rw [groupReasons_of_named named] at explained
      obtain ⟨groups, found, rfl⟩ := Lookups.map_eq_ok.mp explained
      have report := reports_of_mem_reasons member
      have compared : reason.comparison ≠ .present := fun unmet => nomatch report.missing unmet
      obtain ⟨held, same, values⟩ := report.compared compared
      obtain rfl := Option.some.inj same
      exact ⟨report.field, report.accurate, .groups compared report.field named
        found (values.trans (Json.comparands_ofStrings groups.ids))⟩

/-- The reasons for a field are accurate, and rest on what the document has for it. -/
theorem restsOn_of_field {entry : String × FieldCondition} {block : List Reason} {reason : Reason}
    (explained : (Explain.field directory document entry).result = .ok block)
    (member : reason ∈ block) :
    reason.field = entry.1 ∧ reason.IsAccurate ∧ reason.RestsOn directory document := by
  obtain ⟨field, condition⟩ := entry
  obtain ⟨matching, options, rfl⟩ := exists_options_of_field explained
  rw [field_options matching] at explained
  split at explained
  · rename_i group
    exact group ▸ restsOn_of_groupReasons explained member
  · rename_i other
    cases explained
    have report := reports_of_mem_reasons member
    obtain rfl := report.field
    refine ⟨rfl, report.accurate, ?_⟩
    by_cases unmet : reason.comparison = .present
    · exact .missing unmet other (report.missing unmet)
    · obtain ⟨held, same, values⟩ := report.compared unmet
      exact .value unmet other same values

/-- Only what a reason says about groups rests on the directory. -/
theorem restsOn_of_ne {others : GroupDirectory} {reason : Reason}
    (other : reason.field ≠ groupField) (rests : reason.RestsOn directory document) :
    reason.RestsOn others document := by
  cases rests with
  | missing unmet other absent => exact .missing unmet other absent
  | value compared other held values => exact .value compared other held values
  | anonymous _ group _ => exact absurd group other
  | groups _ group _ _ _ => exact absurd group other

end Field

/-- Before the field that asks for groups, a predicate looks up nothing. -/
theorem flatMap_asked_take_eq_nil {document : Document} {predicate : Predicate} {position : Nat}
    {condition : FieldCondition}
    (found : predicate.entries[position]? = some (groupField, condition)) :
    (predicate.entries.take position).flatMap (asked document) = [] := by
  have apart := List.disjoint_take_drop predicate.distinct (Nat.le_refl position)
  rw [FieldEntries.names, ← List.map_take, ← List.map_drop] at apart
  have later : (groupField, condition) ∈ predicate.entries.drop position :=
    List.mem_iff_getElem?.mpr ⟨0, by rwa [List.getElem?_drop]⟩
  refine List.flatMap_eq_nil_iff.mpr fun (field, other) member => asked_of_ne ?_ other
  rintro rfl
  have before : groupField ∈ (predicate.entries.take position).map Prod.fst :=
    List.mem_map_of_mem member
  exact apart before (List.mem_map_of_mem later)

section Levels

variable {source : GroupSource} {document : Document} {earlier : List String}

/-- The explanation of a predicate is of that predicate, and its reasons can be rechecked. -/
theorem rechecks_predicate {asked : Predicate} {explanation : PredicateExplanation}
    (explained : (predicate source document earlier asked).result = .ok explanation) :
    explanation.predicate = asked ∧ explanation.Rechecks (source earlier) document := by
  obtain ⟨blocks, fields, rfl⟩ := Lookups.map_eq_ok.mp explained
  have each (reason : Reason) (member : reason ∈ blocks.flatten) :
      reason.IsAccurate ∧ reason.RestsOn (source earlier) document := by
    obtain ⟨block, blockMember, inside⟩ := List.mem_flatten.mp member
    obtain ⟨position, found⟩ := List.mem_iff_getElem?.mp blockMember
    obtain ⟨entry, place, outcome⟩ :=
      Lookups.explained_of_forAll (fun entry _ _ _ => calls_field entry) fields found
    obtain ⟨same, accurate, rests⟩ := restsOn_of_field outcome inside
    refine ⟨accurate, ?_⟩
    by_cases group : reason.field = groupField
    · obtain ⟨field, condition⟩ := entry
      obtain rfl := same.symm.trans group
      rwa [flatMap_asked_take_eq_nil place, List.append_nil] at rests
    · exact restsOn_of_ne group rests
  exact ⟨rfl, rfl, ⟨blocks, rfl, List.forall₂_map_left_iff.mpr <|
    Lookups.forall₂_of_forAll fields fun entry _ _ block outcome reason member =>
      (restsOn_of_field outcome member).1⟩, fun reason member => (each reason member).1,
        fun reason member => (each reason member).2⟩

/-- An explained predicate has looked up what its fields ask for. -/
theorem calls_predicate {asked : Predicate} {explanation : PredicateExplanation}
    (explained : (predicate source document earlier asked).result = .ok explanation) :
    (predicate source document earlier asked).calls =
      asked.entries.flatMap (Explain.asked document) := by
  obtain ⟨blocks, fields, _⟩ := Lookups.map_eq_ok.mp explained
  exact Lookups.calls_of_forAll (fun entry _ _ _ => calls_field entry) fields

/-- The explanation of a filter is of that filter and position, and can be rechecked. -/
theorem rechecks_filter {numbered : Nat × Filter} {explanation : FilterExplanation}
    (explained : (filter source document earlier numbered).result = .ok explanation) :
    (explanation.source, explanation.filter) = numbered ∧ explanation.Rechecks := by
  obtain ⟨parts, predicates, rfl⟩ := Lookups.map_eq_ok.mp explained
  refine ⟨rfl, ?_, rfl⟩
  refine (Lookups.map_eq_of_forAll predicates fun asked _ _ part outcome => ?_).trans
    (List.map_id _)
  exact (rechecks_predicate outcome).1

/-- The reasons of numbered filters are found by explaining their predicates in order. -/
theorem parts_of_filters {numbered : List (Nat × Filter)} {results : List FilterExplanation}
    (explained : (Lookups.forAll (filter source document) [] numbered).result = .ok results) :
    (Lookups.forAll (predicate source document) []
        (numbered.flatMap fun numbered => numbered.2.predicates)).result =
      .ok (results.flatMap FilterExplanation.reasons) := by
  have reasons (before : List String) (numbered : Nat × Filter) :
      (filter source document before numbered).map FilterExplanation.reasons =
        Lookups.forAll (predicate source document) before numbered.2.predicates := by
    rw [filter, Lookups.map_map, Lookups.map_self]
  rw [Lookups.forAll_flatMap, Lookups.map_eq_ok]
  refine ⟨results.map FilterExplanation.reasons, ?_, List.flatMap_def.symm⟩
  simp only [← reasons, Lookups.forAll_map, Lookups.map_eq_ok]
  exact ⟨results, explained, rfl⟩

end Levels

section Numbering

variable (now : Instant)

/-- Filters are numbered from the first position. -/
theorem position_le_of_mem {position : Nat} {filters : List Filter} {numbered : Nat × Filter}
    (member : numbered ∈ numberedFilters now position filters) : position ≤ numbered.1 := by
  induction filters generalizing position with
  | nil => exact absurd member List.not_mem_nil
  | cons first rest ih =>
      rcases List.mem_append.mp member with own | later
      · obtain ⟨_, _, rfl⟩ := List.mem_map.mp own
        exact Nat.le_refl position
      · exact Nat.le_of_succ_le (ih later)

/-- Filters are numbered in ascending order. -/
theorem pairwise_numberedFilters (position : Nat) (filters : List Filter) :
    ((numberedFilters now position filters).map Prod.fst).Pairwise (· ≤ ·) := by
  induction filters generalizing position with
  | nil => exact .nil
  | cons first rest ih =>
      have own : ((first.expand now).map fun filter => (position, filter)).map Prod.fst =
          List.replicate (first.expand now).length position := by
        rw [List.map_map]
        exact List.map_const'
      rw [numberedFilters, List.map_append, own]
      refine List.pairwise_append.mpr ⟨List.pairwise_replicate.mpr (.inr (Nat.le_refl _)),
        ih (position + 1), fun place member other later => ?_⟩
      obtain ⟨numbered, inside, rfl⟩ := List.mem_map.mp later
      rw [(List.mem_replicate.mp member).2]
      exact Nat.le_of_succ_le (position_le_of_mem now inside)

end Numbering

end Explain

/-- Restructuring never leaves out a filter. -/
theorem Filter.expand_ne_nil (now : Instant) (filter : Filter) : filter.expand now ≠ [] := by
  rw [expand_eq_map_restructure, ne_eq, List.map_eq_nil_iff]
  obtain ⟨connective, predicates⟩ := filter
  cases connective with
  | or => rw [restructure_or]; exact List.cons_ne_nil _ _
  | and =>
      by_cases kept : single predicates = [] → predicates = []
      · exact List.ne_nil_of_mem (mem_restructure_and_iff.mpr (.inl ⟨rfl, kept⟩))
      · obtain ⟨none, content⟩ := Classical.not_imp.mp kept
        obtain ⟨first, rest, rfl⟩ := List.exists_cons_of_ne_nil content
        have several : ∀ alternative, first.alternatives ≠ [alternative] := fun alternative only =>
          absurd (none ▸ mem_single_iff.mpr ⟨first, List.mem_cons_self, only⟩) List.not_mem_nil
        exact List.ne_nil_of_mem (mem_restructure_and_iff.mpr
          (.inr ⟨first, List.mem_cons_self, several, rfl⟩))

namespace Query

variable {query : Query} {source : GroupSource} {now : Instant} {document : Document}
  {explanation : QueryExplanation}

/-- Every predicate is explained after the lookups for the predicates before it. -/
theorem rechecks_parts {numbered : List (Nat × Filter)} {results : List FilterExplanation}
    (explained : (Lookups.forAll (Explain.filter source document) [] numbered).result =
      .ok results) {position : Nat} {part : PredicateExplanation}
    (found : (results.flatMap FilterExplanation.reasons)[position]? = some part) :
    part.Rechecks (source ((((results.flatMap FilterExplanation.reasons).take position).flatMap
      fun part => part.predicate.entries).flatMap (Explain.asked document))) document := by
  have parts := Explain.parts_of_filters explained
  have calls (asked : Predicate) (before : List String) (part : PredicateExplanation)
      (given : (Explain.predicate source document before asked).result = .ok part) :=
    Explain.calls_predicate given
  obtain ⟨asked, inside, outcome⟩ := Lookups.explained_of_forAll calls parts found
  have predicates : (results.flatMap FilterExplanation.reasons).map
      PredicateExplanation.predicate =
        numbered.flatMap fun numbered => numbered.2.predicates :=
    (Lookups.map_eq_of_forAll parts fun _ _ _ _ given =>
      (Explain.rechecks_predicate given).1).trans (List.map_id _)
  have before : ((results.flatMap FilterExplanation.reasons).take position).flatMap
      (fun part => part.predicate.entries.flatMap (Explain.asked document)) =
        ((numbered.flatMap fun numbered => numbered.2.predicates).take position).flatMap
          fun predicate => predicate.entries.flatMap (Explain.asked document) := by
    rw [← predicates, ← List.map_take, List.flatMap_map]
  rw [List.nil_append, ← before] at outcome
  rw [List.flatMap_assoc]
  exact (Explain.rechecks_predicate outcome).2

/-- **Explanations can be rechecked.** Where explaining succeeds, the explanation is of the query
for the document, and its filters, reasons and verdicts are right by what it records. -/
theorem rechecks_of_explainThrough
    (explained : (query.explainThrough source now document).result = .ok explanation) :
    explanation.document = document ∧ explanation.query = query ∧
      explanation.Rechecks source now := by
  unfold explainThrough at explained
  split at explained
  · obtain ⟨results, filters, rfl⟩ := Lookups.map_eq_ok.mp explained
    have numbers : results.map (fun part => (part.source, part.filter)) =
        Explain.numberedFilters now 0 query.filters :=
      (Lookups.map_eq_of_forAll filters fun _ _ _ _ given =>
        (Explain.rechecks_filter given).1).trans (List.map_id _)
    have sources : results.map FilterExplanation.source =
        (Explain.numberedFilters now 0 query.filters).map Prod.fst := by
      rw [← numbers, List.map_map]
      rfl
    refine ⟨rfl, rfl, ?_⟩
    constructor
    case filters =>
      exact numbers.trans (Explain.numberedFilters_eq_flatMap now 0 query.filters)
    case everySource =>
      intro position inside
      rw [sources, Explain.numberedFilters_eq_flatMap]
      obtain ⟨expanded, member⟩ :=
        List.exists_mem_of_ne_nil _ (query.filters[position].expand_ne_nil now)
      refine List.mem_map.mpr ⟨(position, expanded), List.mem_flatMap.mpr
        ⟨(query.filters[position], position), ?_, List.mem_map_of_mem member⟩, rfl⟩
      rw [List.mem_zipIdx_iff_getElem?]
      exact List.getElem?_eq_getElem inside
    case ascending => exact sources ▸ Explain.pairwise_numberedFilters now 0 query.filters
    case ofFilters =>
      intro part member
      obtain ⟨_, _, _, given⟩ := Lookups.exists_element_of_forAll filters part member
      exact (Explain.rechecks_filter given).2
    case ofPredicates => exact fun position part => rechecks_parts filters
    case verdict => rfl
    case summary => rfl
  · cases explained

/-- Story maps of a group that the item leaves between two lookups, owned by someone else. -/
theorem rechecks_of_explainThrough_storymap :
    let query : Query := ⟨.item, [⟨.and, [.ofEntries [("type", .text "$storymap"),
      ("group", .options ⟨none, some (.one "g1"), some (.one "g2"), none⟩)],
        .ofEntries [("owner", .text "casey")]]⟩]⟩
    let source : GroupSource := fun earlier _ =>
      .ok ⟨[], if earlier.isEmpty then [⟨"g1", "Maps"⟩] else [], [⟨"g2", "Staff"⟩]⟩
    let document : Document := .ofMembers [("id", .string "i1"), ("type", .string "StoryMap")]
    ∃ explanation, (query.explainThrough source .epoch document).result = .ok explanation ∧
      explanation.reasons.map FilterExplanation.source = [0, 0] ∧
      explanation.summary.map (fun reason => (reason.field, reason.comparison, reason.matched)) =
        [("owner", .present, false),
          ("group", .includesAll, true), ("group", .excludes, false), ("type", .includesAny, true),
          ("group", .includesAll, false), ("group", .excludes, false),
          ("type", .includesAny, false), ("typekeywords", .present, false)] ∧
      explanation.document = document ∧ explanation.query = query ∧
      explanation.Rechecks source .epoch :=
  ⟨_, rfl, rfl, rfl, rechecks_of_explainThrough rfl⟩

end Query

end CatalogSearch
