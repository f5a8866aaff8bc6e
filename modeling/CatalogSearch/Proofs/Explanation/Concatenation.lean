import CatalogSearch.Proofs.Criteria.Concatenation
import CatalogSearch.Proofs.Explanation.Agreement
import CatalogSearch.Proofs.Portal.Parameters

/-!
# Concatenated queries

With a directory that gives the same answer whenever it is asked for an identifier, it does not
matter what was looked up before a filter is explained (`Explain.filter_unaffected`). So a query
whose filters are those of two queries is explained like both, one after the other
(`Query.explain_append`), and every other stage treats it like that as well
(`Query.append_composes`).
-/

namespace CatalogSearch

namespace Lookups

variable {α β γ : Type}

/-- Where explaining an element does not depend on earlier lookups, traversing does not either. -/
theorem forAll_unaffected {explain : List String → α → Lookups β}
    (unaffected : ∀ before other element, explain before element = explain other element)
    (earlier other : List String) (elements : List α) :
    forAll explain earlier elements = forAll explain other elements := by
  induction elements generalizing earlier other with
  | nil => rfl
  | cons first rest ih =>
      rw [forAll, forAll, unaffected earlier other first,
        ih (earlier ++ (explain other first).calls) (other ++ (explain other first).calls)]

/-- Traversing changed elements is traversing the elements with their changed explanations. -/
theorem forAll_map_elements {explain : List String → α → Lookups β}
    {change : α → α} {changed : β → β}
    (each : ∀ before element, explain before (change element) =
      (explain before element).map changed)
    (earlier : List String) (elements : List α) :
    forAll explain earlier (elements.map change) =
      (forAll explain earlier elements).map (List.map changed) := by
  have related : List.Forall₂ (fun element other => element = change other)
      (elements.map change) elements :=
    List.forall₂_map_left_iff.mpr (List.forall₂_same.mpr fun _ _ => rfl)
  rw [← forAll_map]
  apply forAll_congr _ related
  rintro before _ other rfl
  exact each before other

end Lookups

/-- The explanation of a filter that comes behind a number of other filters. -/
def FilterExplanation.behind (count : Nat) (explanation : FilterExplanation) : FilterExplanation :=
  { explanation with source := count + explanation.source }

namespace Explain

section Directory

variable (directory : GroupDirectory) (document : Document)

/-- Where the answers do not depend on earlier lookups, neither does explaining a predicate. -/
theorem predicate_unaffected (before other : List String) (asked : Predicate) :
    predicate (fun _ => directory) document before asked =
      predicate (fun _ => directory) document other asked := by
  rw [predicate, predicate, Lookups.forAll_unaffected (fun _ _ _ => rfl) before other]

/-- Where the answers do not depend on earlier lookups, neither does explaining a filter. -/
theorem filter_unaffected (before other : List String) (numbered : Nat × Filter) :
    filter (fun _ => directory) document before numbered =
      filter (fun _ => directory) document other numbered := by
  rw [filter, filter,
    Lookups.forAll_unaffected (predicate_unaffected directory document) before other]

end Directory

/-- A filter at a later position is explained as before, at that position. -/
theorem filter_behind (source : GroupSource) (document : Document) (count : Nat)
    (before : List String) (numbered : Nat × Filter) :
    filter source document before (count + numbered.1, numbered.2) =
      (filter source document before numbered).map (FilterExplanation.behind count) := by
  rw [filter, filter, Lookups.map_map]
  rfl

section Numbering

variable (now : Instant)

/-- The filters behind others are numbered on from their number. -/
theorem numberedFilters_append (position : Nat) (front back : List Filter) :
    numberedFilters now position (front ++ back) =
      numberedFilters now position front ++
        numberedFilters now (position + front.length) back := by
  simp only [numberedFilters_eq_flatMap, List.zipIdx_append, List.flatMap_append]

/-- Filters behind others are numbered from their number on. -/
theorem numberedFilters_behind (count : Nat) (filters : List Filter) :
    numberedFilters now count filters =
      (numberedFilters now 0 filters).map fun numbered => (count + numbered.1, numbered.2) := by
  rw [numberedFilters_eq_flatMap, numberedFilters_eq_flatMap, List.zipIdx_eq_map_add,
    List.flatMap_map, List.map_flatMap]
  simp only [List.map_map]
  rfl

end Numbering

end Explain

/-- The explanation of a query that consists of two, from the explanations of both. -/
def QueryExplanation.append (query : Query) (first second : QueryExplanation) :
    QueryExplanation where
  document := first.document
  query := query
  matched := first.matched && second.matched
  reasons := first.reasons ++
    second.reasons.map (FilterExplanation.behind first.query.filters.length)
  summary := first.summary ++ second.summary

namespace Query

section Explanation

variable {directory : GroupDirectory} {now : Instant} {document : Document} {first second : Query}

/-- The filters behind those of another query are explained as they are in front, with later
numbers. -/
theorem filters_behind {earlier : List String} {filters : List Filter}
    {results : List FilterExplanation} (count : Nat)
    (explained : (Lookups.forAll (Explain.filter (fun _ => directory) document) []
      (Explain.numberedFilters now 0 filters)).result = .ok results) :
    (Lookups.forAll (Explain.filter (fun _ => directory) document) earlier
      (Explain.numberedFilters now count filters)).result =
        .ok (results.map (FilterExplanation.behind count)) := by
  rw [Lookups.forAll_unaffected (Explain.filter_unaffected directory document) earlier [],
    Explain.numberedFilters_behind,
    Lookups.forAll_map_elements (Explain.filter_behind (fun _ => directory) document count)]
  exact Lookups.map_eq_ok.mpr ⟨results, explained, rfl⟩

/-- Where both queries are explained, so is their concatenation, with the reasons of both. -/
theorem explain_append {explanation other : QueryExplanation}
    (explained : (first.explain directory now document).result = .ok explanation)
    (others : (second.explain directory now document).result = .ok other) :
    ((first.append second).explain directory now document).result =
      .ok (explanation.append (first.append second) other) := by
  obtain ⟨items, results, filters, rfl⟩ := explainThrough_eq_ok.mp explained
  obtain ⟨_, more, rest, rfl⟩ := explainThrough_eq_ok.mp others
  have whole : (Lookups.forAll (Explain.filter (fun _ => directory) document) []
      (Explain.numberedFilters now 0 (first.append second).filters)).result =
        .ok (results ++ more.map (FilterExplanation.behind first.filters.length)) := by
    rw [append, Explain.numberedFilters_append, Nat.zero_add, Lookups.forAll_append]
    apply Lookups.andThen_eq_ok.mpr
    exact ⟨results, filters, Lookups.map_eq_ok.mpr ⟨_, filters_behind _ rest, rfl⟩⟩
  apply explainThrough_eq_ok.mpr
  refine ⟨items, _, whole, ?_⟩
  rw [QueryExplanation.append, List.all_append, List.all_map, List.flatMap_append,
    List.flatMap_map, List.flatMap_append]
  rfl

end Explanation

/-- **Every stage treats the filters of a query one by one.** A query with the filters of two is
expanded and lowered to what comes of both, one after the other, and a document satisfies it when it
satisfies both. The texts of searches are the joined texts of both, as far as they have any, and the
parameters of the second complete those of the first. With a directory that gives the same answer
whenever it is asked for an identifier, a document that is explained for both is explained for the
query with the reasons of both. -/
theorem append_composes (first second : Query) (now : Instant) :
    (first.append second).expand now = (first.expand now).append (second.expand now) ∧
    (∀ policy, ((first.append second).criteria now policy).groups =
      (first.criteria now policy).groups ++ (second.criteria now policy).groups) ∧
    (∀ policy document one other, (first.criteria now policy).matches document = .ok one →
      (second.criteria now policy).matches document = .ok other →
        ((first.append second).criteria now policy).matches document = .ok (one && other)) ∧
    (∀ settings : OgcSettings, Ogc.expression settings now (first.append second) =
      Ogc.bothExpressions (Ogc.expression settings now first)
        (Ogc.expression settings now second)) ∧
    (∀ settings : PortalSettings,
      let search := PortalSearch.ofQuery settings now
      let whole := search (first.append second)
      whole.query = (search first).query.merge bothTexts (search second).query ∧
      whole.exact = (search first).exact.merge bothTexts (search second).exact ∧
      whole.parameters =
        Portal.completed (search first).parameters (search second).parameters) ∧
    ∀ directory document explanation other,
      (first.explain directory now document).result = .ok explanation →
      (second.explain directory now document).result = .ok other →
        ((first.append second).explain directory now document).result =
          .ok (explanation.append (first.append second) other) := by
  refine ⟨expand_append, fun _ => groups_append, ?_, fun _ => Ogc.expression_append, ?_, ?_⟩
  · intro policy document one other matched others
    exact Criteria.matches_of_append groups_append matched others
  · intro settings
    exact ⟨PortalSearch.text_append (.inl rfl), PortalSearch.text_append (.inr rfl),
      PortalSearch.parameters_append⟩
  · intro directory document explanation other explained others
    exact explain_append explained others

/-- Story maps of an owner, with exact keywords that are sent apart, and a disjunction that the
document does not satisfy. -/
theorem append_composes_storyMap :
    let first : Query := ⟨.item, [
      ⟨.and, [.ofEntries [("owner", .text "casey"), ("type", .text "$storymap")]]⟩,
      ⟨.and, [.ofEntries [("tags", .options ⟨none, none, none, some (.one "maps")⟩)]]⟩]⟩
    let second : Query := ⟨.item, [⟨.or, [.ofEntries [("group", .list ["g1", "g2"])],
      .ofEntries [("owner", .text "robin")]]⟩]⟩
    let directory : GroupDirectory := fun _ => .ok ⟨[⟨"g3", "Staff"⟩], [], []⟩
    let document : Document := .ofMembers [("id", .string "i1"), ("owner", .string "casey"),
      ("tags", .ofStrings ["maps"]), ("type", .string "StoryMap")]
    let policy : FieldPolicy := PortalSettings.initial.includes
    (first.criteria .epoch policy).matches document = .ok true ∧
      (second.criteria .epoch policy).matches document = .ok false ∧
      ((first.append second).criteria .epoch policy).matches document = .ok false ∧
      ∃ explanation other, (first.explain directory .epoch document).result = .ok explanation ∧
        (second.explain directory .epoch document).result = .ok other ∧
          ((first.append second).explain directory .epoch document).result =
            .ok (explanation.append (first.append second) other) := by
  intro first second directory document policy
  have satisfied : (first.criteria .epoch policy).matches document = .ok true := rfl
  have refused : (second.criteria .epoch policy).matches document = .ok false := rfl
  obtain ⟨explanation, explained⟩ : ∃ explanation,
      (first.explain directory .epoch document).result = .ok explanation := ⟨_, rfl⟩
  obtain ⟨other, others⟩ : ∃ other,
      (second.explain directory .epoch document).result = .ok other := ⟨_, rfl⟩
  obtain ⟨_, _, matching, _, _, explaining⟩ := append_composes first second .epoch
  exact ⟨satisfied, refused, matching policy document true false satisfied refused, explanation,
    other, explained, others, explaining directory document explanation other explained others⟩

end Query

end CatalogSearch
