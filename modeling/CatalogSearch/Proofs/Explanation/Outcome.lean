import CatalogSearch.Proofs.Explanation.Agreement
import Mathlib.Order.Nat
import Mathlib.Tactic.Push

/-!
# How explaining ends

Explaining walks along the fields of the expanded query and looks up groups for every field that
asks for them. It ends at the first field that cannot be explained or whose groups are not found,
and otherwise succeeds (`Query.explainThrough_outcome`). Where nothing is looked up, the source of
groups makes no difference (`Query.explainThrough_of_unasked`).
-/

namespace CatalogSearch

/-- The identifier of a document, if it has one that is a text. -/
def Document.identifier? (document : Document) : Option String :=
  (document.get? idField).bind Json.asString?

/-- The fields that the predicates of a query constrain, one predicate after the other. -/
def Query.entries (query : Query) : FieldEntries :=
  query.predicates.flatMap Predicate.entries

namespace Explain

/-- The identifiers that explaining a field looks up: that of the document for match options on
groups. -/
def asked (document : Document) : String × FieldCondition → List String
  | (field, .options _) => if field = groupField then document.identifier?.toList else []
  | _ => []

/-- Why a field cannot be explained, its groups being looked up in the given directory. -/
inductive Obstacle (directory : GroupDirectory) (document : Document) :
    String × FieldCondition → QueryError → Prop where
  | date {field : String} {condition : FieldCondition} (date : FieldKind.ofName field = .date) :
      Obstacle directory document (field, condition)
        (.notImplemented ("explaining date field " ++ field))
  | passThrough {field : String} {condition : FieldCondition}
      (passThrough : FieldKind.ofName field = .passThrough) :
      Obstacle directory document (field, condition)
        (.notImplemented ("explaining pass-through field " ++ field))
  | noOptions {field : String} {condition : FieldCondition}
      (matching : FieldKind.ofName field = .matching)
      (other : ∀ options, condition ≠ .options options) :
      Obstacle directory document (field, condition)
        (.notImplemented ("explaining non-match value of " ++ field))
  | lookup {options : MatchOptions} {id : String} {error : QueryError}
      (named : document.identifier? = some id) (refused : directory id = .error error) :
      Obstacle directory document (groupField, .options options) error

/-- Whether explaining cannot go on at a position among fields, after the lookups for the fields
before it. -/
def StopsAt (source : GroupSource) (document : Document) (entries : FieldEntries) (position : Nat)
    (error : QueryError) : Prop :=
  ∃ entry, entries[position]? = some entry ∧
    Obstacle (source ((entries.take position).flatMap (asked document))) document entry error

section Field

variable {directory : GroupDirectory} {document : Document}

/-- The reasons on groups of a document with an identifier are those on the groups it is found in.
-/
theorem groupReasons_of_named {id : String} (named : document.identifier? = some id)
    (options : MatchOptions) : groupReasons directory document options =
      (lookup directory id).map fun groups =>
        reasons groupField options (some (.ofStrings groups.ids)) (some (groupInformation groups))
    := by
  unfold groupReasons
  rw [← Document.identifier?, named]

/-- The reasons on groups of a document without an identifier are that there are none. -/
theorem groupReasons_of_anonymous (anonymous : document.identifier? = none)
    (options : MatchOptions) : groupReasons directory document options =
      .done [Reason.missing groupField] := by
  unfold groupReasons
  rw [← Document.identifier?, anonymous]

/-- No identifier is looked up for other fields than that of groups. -/
theorem asked_of_ne {field : String} (other : field ≠ groupField) (condition : FieldCondition) :
    asked document (field, condition) = [] := by
  cases condition with
  | options options => exact if_neg other
  | _ => rfl

/-- Reasons on groups take one lookup of the identifier, if there is one. -/
theorem calls_groupReasons (options : MatchOptions) :
    (groupReasons directory document options).calls = document.identifier?.toList := by
  cases named : document.identifier? with
  | none => rw [groupReasons_of_anonymous named]; rfl
  | some id => rw [groupReasons_of_named named]; rfl

/-- Whatever comes of it, explaining a field looks up what the field asks for. -/
theorem calls_field (entry : String × FieldCondition) :
    (Explain.field directory document entry).calls = asked document entry := by
  obtain ⟨field, condition⟩ := entry
  have other (kind : FieldKind.ofName field ≠ .matching) : field ≠ groupField := by
    rintro rfl
    exact kind rfl
  cases kind : FieldKind.ofName field with
  | date =>
      rw [asked_of_ne (other (by rw [kind]; decide)), Explain.field, kind]
      rfl
  | passThrough =>
      rw [asked_of_ne (other (by rw [kind]; decide)), Explain.field, kind]
      rfl
  | matching =>
      cases condition with
      | options options =>
          rw [field_options kind, asked]
          split
          · exact calls_groupReasons options
          · rfl
      | _ =>
          rw [Explain.field, kind]
          rfl

/-- Two directories explain a field alike if they do so for options on groups. -/
theorem field_congr {answers : GroupDirectory} {entry : String × FieldCondition}
    (same : ∀ options, entry = (groupField, .options options) →
      groupReasons directory document options = groupReasons answers document options) :
    Explain.field directory document entry = Explain.field answers document entry := by
  obtain ⟨name, condition⟩ := entry
  cases kind : FieldKind.ofName name with
  | matching =>
      cases condition with
      | options options =>
          rw [field_options kind, field_options kind]
          split
          · rename_i group
            exact same options (group ▸ rfl)
          · rfl
      | _ => simp only [Explain.field, kind, FieldCondition.asOptions?]
  | _ => simp only [Explain.field, kind]

/-- All directories explain a field alike if nothing is looked up for it. -/
theorem field_of_asked_eq_nil {answers : GroupDirectory} {entry : String × FieldCondition}
    (none : asked document entry = []) :
    Explain.field directory document entry = Explain.field answers document entry := by
  refine field_congr fun options same => ?_
  have anonymous : document.identifier? = Option.none := by
    simpa [same, asked] using none
  rw [groupReasons_of_anonymous anonymous, groupReasons_of_anonymous anonymous]

/-- Reasons on groups fail exactly if the lookup of the identifier does, with the same error. -/
theorem groupReasons_eq_error_iff {options : MatchOptions} {error : QueryError} :
    (groupReasons directory document options).result = .error error ↔
      ∃ id, document.identifier? = some id ∧ directory id = .error error := by
  cases named : document.identifier? with
  | none => simp [groupReasons_of_anonymous named, Lookups.done]
  | some id => simp [groupReasons_of_named named, Lookups.map_eq_error, lookup]

/-- Explaining a field fails with what stands in its way. -/
theorem field_eq_error_iff {entry : String × FieldCondition} {error : QueryError} :
    (Explain.field directory document entry).result = .error error ↔
      Obstacle directory document entry error := by
  constructor
  · obtain ⟨field, condition⟩ := entry
    intro failed
    cases kind : FieldKind.ofName field with
    | date =>
        rw [Explain.field, kind] at failed
        cases failed
        exact .date kind
    | passThrough =>
        rw [Explain.field, kind] at failed
        cases failed
        exact .passThrough kind
    | matching =>
        cases condition with
        | options options =>
            rw [field_options kind] at failed
            split at failed
            · rename_i group
              obtain ⟨id, named, refused⟩ := groupReasons_eq_error_iff.mp failed
              exact group ▸ .lookup named refused
            · cases failed
        | _ =>
            rw [Explain.field, kind] at failed
            cases failed
            exact .noOptions kind nofun
  · rintro (kind | kind | ⟨kind, other⟩ | ⟨named, refused⟩)
    · rw [Explain.field, kind]
      rfl
    · rw [Explain.field, kind]
      rfl
    · rename_i field condition
      rw [Explain.field, kind]
      cases condition with
      | options options => exact absurd rfl (other options)
      | _ => rfl
    · rw [field_options rfl, if_pos rfl]
      exact groupReasons_eq_error_iff.mpr ⟨_, named, refused⟩

/-- A field that nothing stands in the way of is explained. -/
theorem exists_reasons_of_field {entry : String × FieldCondition}
    (clear : ∀ error, ¬Obstacle directory document entry error) :
    ∃ reasons, (Explain.field directory document entry).result = .ok reasons := by
  cases explained : (Explain.field directory document entry).result with
  | ok reasons => exact ⟨reasons, rfl⟩
  | error error => exact absurd (field_eq_error_iff.mp explained) (clear error)

end Field

/-- Explaining numbered filters takes the course of explaining all their fields. -/
theorem sameCourse_filters (source : GroupSource) (document : Document)
    (numbered : List (Nat × Filter)) :
    (Lookups.forAll (Explain.filter source document) [] numbered).SameCourse
      (Lookups.forAll (fun earlier => Explain.field (source earlier) document) []
        ((numbered.flatMap fun numbered => numbered.2.predicates).flatMap Predicate.entries)) :=
  (Lookups.sameCourse_forAll (fun _ _ => rfl) [] numbered).trans
    (Lookups.sameCourse_forAll (fun _ _ => rfl) [] _)

/-- The fields of expanded filters are among the fields of the query when it is expanded. -/
theorem mem_entries_of_mem_numberedFilters {query : Query} {now : Instant}
    {numbered : Nat × Filter} (member : numbered ∈ numberedFilters now 0 query.filters)
    {predicate : Predicate} (inside : predicate ∈ numbered.2.predicates)
    {entry : String × FieldCondition} (held : entry ∈ predicate.entries) :
    entry ∈ (query.expand now).entries := by
  refine List.mem_flatMap.mpr ⟨predicate, List.mem_flatMap.mpr ⟨numbered.2, ?_, inside⟩, held⟩
  rw [Query.expand, ← map_snd_numberedFilters now 0]
  exact List.mem_map_of_mem member

end Explain

namespace Query

/-- Explaining a query for items takes the course of explaining the fields of its expansion. -/
theorem sameCourse_explainThrough {query : Query} (items : query.target = .item)
    (source : GroupSource) (now : Instant) (document : Document) :
    (query.explainThrough source now document).SameCourse
      (Lookups.forAll (fun earlier => Explain.field (source earlier) document) []
        (query.expand now).entries) := by
  have same : (Explain.numberedFilters now 0 query.filters).flatMap
      (fun numbered => numbered.2.predicates) = (query.expand now).predicates := by
    rw [predicates, expand, ← Explain.map_snd_numberedFilters now 0, List.flatMap_map]
  rw [explainThrough, if_pos items, entries, ← same]
  exact (Lookups.SameCourse.map _ _).trans (Explain.sameCourse_filters source document _)

/-- A query for which nothing is looked up is explained through every source as if no item had
groups. -/
theorem explainThrough_of_unasked {query : Query} {now : Instant} {document : Document}
    (unasked : ∀ entry ∈ (query.expand now).entries, Explain.asked document entry = [])
    (source : GroupSource) :
    query.explainThrough source now document = query.explain .none now document := by
  have predicates {numbered : Nat × Filter}
      (member : numbered ∈ Explain.numberedFilters now 0 query.filters) {predicate : Predicate}
      (inside : predicate ∈ numbered.2.predicates) (before : List String) :
      Explain.predicate source document before predicate =
        Explain.predicate (fun _ => .none) document before predicate := by
    have fields : ∀ entry ∈ predicate.entries, ∀ before,
        Explain.field (source before) document entry = Explain.field .none document entry :=
      fun entry held _ => Explain.field_of_asked_eq_nil
        (unasked entry (Explain.mem_entries_of_mem_numberedFilters member inside held))
    rw [Explain.predicate, Lookups.forAll_congr_of_mem fields before, Explain.predicate]
  have filters {numbered : Nat × Filter}
      (member : numbered ∈ Explain.numberedFilters now 0 query.filters) (before : List String) :
      Explain.filter source document before numbered =
        Explain.filter (fun _ => .none) document before numbered := by
    rw [Explain.filter, Lookups.forAll_congr_of_mem (fun _ => predicates member) before,
      Explain.filter]
  rw [explain, explainThrough, Lookups.forAll_congr_of_mem (fun _ => filters) [], explainThrough]

section Outcome

variable {query : Query} {source : GroupSource} {now : Instant} {document : Document}

/-- A query with a field that cannot be explained fails at the first such field. -/
theorem explainThrough_of_stopsAt (items : query.target = .item) {position : Nat}
    {error : QueryError}
    (stops : Explain.StopsAt source document (query.expand now).entries position error)
    (first : ∀ before < position, ∀ other,
      ¬Explain.StopsAt source document (query.expand now).entries before other) :
    (query.explainThrough source now document).result = .error error ∧
      (query.explainThrough source now document).calls =
        ((query.expand now).entries.take (position + 1)).flatMap (Explain.asked document) := by
  obtain ⟨entry, found, obstacle⟩ := stops
  have walk : Lookups.forAll (fun earlier => Explain.field (source earlier) document) []
      (query.expand now).entries =
        ⟨((query.expand now).entries.take (position + 1)).flatMap (Explain.asked document),
          .error error⟩ :=
    Lookups.forAll_of_first_failure (fun entry _ => Explain.calls_field entry) found
      (Explain.field_eq_error_iff.mpr obstacle) fun before smaller other inside =>
        Explain.exists_reasons_of_field fun error obstacle =>
          first before smaller error ⟨other, inside, obstacle⟩
  obtain ⟨calls, failure⟩ := sameCourse_explainThrough items source now document
  rw [walk] at calls failure
  exact ⟨(failure error).mpr rfl, calls⟩

/-- A query whose fields can all be explained is explained. -/
theorem exists_explanation_of_forall (items : query.target = .item)
    (clear : ∀ position error,
      ¬Explain.StopsAt source document (query.expand now).entries position error) :
    ∃ explanation, (query.explainThrough source now document).result = .ok explanation := by
  rw [(sameCourse_explainThrough items source now document).exists_ok_iff]
  exact Lookups.exists_results_of_forall (fun entry _ => Explain.calls_field entry)
    fun position entry inside => Explain.exists_reasons_of_field fun error obstacle =>
      clear position error ⟨entry, inside, obstacle⟩

/-- An explained query has looked up what all its fields ask for. -/
theorem calls_of_explainThrough (items : query.target = .item) {explanation : QueryExplanation}
    (explained : (query.explainThrough source now document).result = .ok explanation) :
    (query.explainThrough source now document).calls =
      (query.expand now).entries.flatMap (Explain.asked document) := by
  have same := sameCourse_explainThrough items source now document
  obtain ⟨results, reasons⟩ := same.exists_ok_iff.mp ⟨explanation, explained⟩
  rw [same.1, Lookups.calls_of_forAll (fun entry _ _ _ => Explain.calls_field entry) reasons]

end Outcome

/-- **How explaining ends.** Only queries for items are explained, and of others nothing is looked
up. Explaining fails at the first field of the expanded query that is no matter of match options or
whose groups the source refuses, with the error there, and it succeeds if there is none. Until then
every field with match options on groups has looked up the identifier of the document once. -/
theorem explainThrough_outcome (source : GroupSource) (now : Instant) (document : Document)
    (query : Query) :
    (query.target ≠ .item →
      query.explainThrough source now document = .fail (.unsupportedTarget query.target)) ∧
    (query.target = .item →
      let entries := (query.expand now).entries
      let explained := query.explainThrough source now document
      (∀ position error, Explain.StopsAt source document entries position error →
        (∀ before < position, ∀ other, ¬Explain.StopsAt source document entries before other) →
          explained.result = .error error ∧
            explained.calls = (entries.take (position + 1)).flatMap (Explain.asked document)) ∧
      ((∃ explanation, explained.result = .ok explanation) ↔
        ∀ position error, ¬Explain.StopsAt source document entries position error) ∧
      ∀ explanation, explained.result = .ok explanation →
        explained.calls = entries.flatMap (Explain.asked document)) := by
  refine ⟨fun other => if_neg other, fun items => ⟨fun _ _ => explainThrough_of_stopsAt items,
    ⟨?_, exists_explanation_of_forall items⟩, fun _ => calls_of_explainThrough items⟩⟩
  rintro ⟨explanation, explained⟩
  by_contra stops
  push Not at stops
  -- Some field cannot be explained, so the first such field has ended explaining.
  classical
  obtain ⟨error, stopped⟩ := Nat.find_spec stops
  have failed := (explainThrough_of_stopsAt items stopped fun before smaller other earlier =>
    Nat.find_min stops smaller ⟨other, earlier⟩).1
  rw [explained] at failed
  cases failed

/-- A source that answers once and then fails with an error of its own, on a query that asks for
groups twice before it comes to a date. -/
theorem explainThrough_outcome_refused :
    let query : Query := ⟨.item, [⟨.and, [
      .ofEntries [("group", .text "g1"), ("tags", .text "maps")],
      .ofEntries [("owner", .text "casey"), ("group", .list ["g2"]), ("created", .range ⟨0, 1⟩)]]⟩]⟩
    let source : GroupSource := fun earlier _ =>
      if earlier.isEmpty then .ok ⟨[⟨"g1", "Maps"⟩], [], []⟩ else .error (.storage "busy")
    let document : Document := .ofMembers [("id", .string "i1"), ("owner", .string "robin")]
    query.target = .item ∧
      Explain.StopsAt source document (query.expand .epoch).entries 3 (.storage "busy") ∧
      (∀ before < 3, ∀ other,
        ¬Explain.StopsAt source document (query.expand .epoch).entries before other) ∧
      (query.explainThrough source .epoch document).result = .error (.storage "busy") ∧
      (query.explainThrough source .epoch document).calls = ["i1", "i1"] := by
  intro query source document
  have named : document.identifier? = some "i1" := rfl
  have stops : Explain.StopsAt source document (query.expand .epoch).entries 3
      (.storage "busy") :=
    ⟨(groupField, .options (.ofAny ["g2"])), rfl, .lookup named rfl⟩
  have first : ∀ before < 3, ∀ other,
      ¬Explain.StopsAt source document (query.expand .epoch).entries before other := by
    rintro before smaller other ⟨entry, found, obstacle⟩
    rw [← Explain.field_eq_error_iff] at obstacle
    match before, smaller with
    | 0, _ => cases found; cases obstacle
    | 1, _ => cases found; cases obstacle
    | 2, _ => cases found; cases obstacle
  obtain ⟨result, calls⟩ :=
    ((explainThrough_outcome source .epoch document query).2 rfl).1 3 _ stops first
  exact ⟨rfl, stops, first, result, calls⟩

end Query

end CatalogSearch
