import CatalogSearch.Proofs.Criteria.Alike
import CatalogSearch.Proofs.Explanation.Outcome

/-!
# Verdicts depend on sets only

Neither evaluating criteria nor explaining takes notice of how a set of texts is listed, be it in a
query, in a document or among the groups that are found (`Query.Alike.verdict_eq`).
-/

namespace CatalogSearch

/-- Whether two answers of a directory are groups with the same identifiers, or the same error. -/
inductive ItemGroups.AnswerAlike :
    Except QueryError ItemGroups → Except QueryError ItemGroups → Prop where
  | found {groups others : ItemGroups} (same : SameTexts groups.ids others.ids) :
      AnswerAlike (.ok groups) (.ok others)
  | refused (error : QueryError) : AnswerAlike (.error error) (.error error)

/-- Whether two directories give every identifier answers that are alike. -/
def GroupDirectory.Alike (first second : GroupDirectory) : Prop :=
  ∀ id, ItemGroups.AnswerAlike (first id) (second id)

/-- Whether two sources are alike after any lookups. -/
def GroupSource.Alike (first second : GroupSource) : Prop :=
  ∀ earlier, (first earlier).Alike (second earlier)

/-- No test of match options is one for a range. -/
theorem MatchOptions.isBetween_of_mem_tests {options : MatchOptions} :
    ∀ test ∈ options.tests, test.isBetween = false := by
  intro test member
  simp only [tests, partTests, List.mem_append, Option.mem_toList, Option.map_eq_some_iff] at member
  rcases member with ((⟨_, _, rfl⟩ | ⟨_, _, rfl⟩) | ⟨_, _, rfl⟩) | ⟨_, _, rfl⟩ <;> rfl

/-- Options that are alike are met by the same sets of texts. -/
theorem MatchOptions.Alike.all_meets_eq {first second : MatchOptions} (alike : first.Alike second)
    {value held : Option Json} (values : Option.Rel Json.Alike value held) :
    first.tests.all (FieldTest.meets value) = second.tests.all (FieldTest.meets held) := by
  have outcomes : first.tests.map (FieldTest.meets value) =
      second.tests.map (FieldTest.meets held) := by
    refine map_eq_of_forall₂ ((List.forall₂_and_left _ _).mpr
      ⟨MatchOptions.isBetween_of_mem_tests, alike.tests⟩) ?_
    rintro test other ⟨unranged, alike⟩
    rw [FieldTest.meets, alike.evaluate_eq unranged values, FieldTest.meets]
  have all := congrArg (fun outcomes => outcomes.all id) outcomes
  simpa only [List.all_map, Function.id_comp] using all

/-- Conditions that are alike have options that are alike, or have none. -/
theorem FieldCondition.Alike.asOptions?_rel {field : String} {first second : FieldCondition}
    (alike : FieldCondition.Alike field first second) :
    Option.Rel MatchOptions.Alike first.asOptions? second.asOptions? := by
  have part (texts : Option Texts) : Option.Rel Texts.Alike texts texts := by
    cases texts with
    | none => exact .none
    | some texts => exact .some fun _ => Iff.rfl
  cases alike with
  | options _ _ alike => exact .some alike
  | same =>
      cases first with
      | options options => exact .some ⟨part _, part _, part _, part _⟩
      | _ => exact .none

namespace Explain

section Field

variable {directory answers : GroupDirectory} {document other : Document}

/-- Options that are alike give the same verdict on values that are alike. -/
theorem matched_reasons_eq {field : String} {first second : MatchOptions}
    (alike : first.Alike second) {value held information others : Option Json}
    (values : Option.Rel Json.Alike value held) :
    (reasons field first value information).all Reason.matched =
      (reasons field second held others).all Reason.matched := by
  rw [all_matched_reasons, all_matched_reasons]
  exact alike.all_meets_eq values

variable (named : document.identifier? = other.identifier?) (directories : directory.Alike answers)

include named directories

/-- Options on groups that are alike give the same verdict, or the same error. -/
theorem map_matched_groupReasons_eq {first second : MatchOptions} (alike : first.Alike second) :
    (groupReasons directory document first).map (fun reasons => reasons.all Reason.matched) =
      (groupReasons answers other second).map fun reasons => reasons.all Reason.matched := by
  cases given : document.identifier? with
  | none => rw [groupReasons_of_anonymous given, groupReasons_of_anonymous (named ▸ given)]
  | some id =>
      rw [groupReasons_of_named given, groupReasons_of_named (named ▸ given), Lookups.map_map,
        Lookups.map_map, lookup, lookup]
      have answer := directories id
      generalize directory id = mine at answer ⊢
      generalize answers id = theirs at answer ⊢
      cases answer with
      | refused error => rfl
      | found same =>
          refine congrArg (Lookups.mk [id]) (congrArg Except.ok (matched_reasons_eq alike ?_))
          refine .some ?_
          rwa [Json.Alike, Json.comparands_ofStrings, Json.comparands_ofStrings]

/-- Whether a field matches depends on sets of texts only. -/
theorem map_matched_field_eq (documents : document.Alike other)
    {entry another : String × FieldCondition} (same : entry.1 = another.1)
    (alike : FieldCondition.Alike entry.1 entry.2 another.2) :
    (field directory document entry).map (fun reasons => reasons.all Reason.matched) =
      (field answers other another).map fun reasons => reasons.all Reason.matched := by
  have options := alike.asOptions?_rel
  unfold field
  rw [← same]
  generalize entry.2.asOptions? = asked at options ⊢
  generalize another.2.asOptions? = listed at options ⊢
  cases FieldKind.ofName entry.1 with
  | date => rfl
  | passThrough => rfl
  | matching =>
      cases options with
      | none => rfl
      | some alike =>
          dsimp only
          split
          · exact map_matched_groupReasons_eq named directories alike
          · exact congrArg (Lookups.mk [])
              (congrArg Except.ok (matched_reasons_eq alike (documents entry.1)))

end Field

section Levels

variable (source : GroupSource) (document : Document)

/-- The verdict on a predicate is found from those on its fields. -/
theorem map_matched_predicate (earlier : List String) (asked : Predicate) :
    (predicate source document earlier asked).map PredicateExplanation.matched =
      (Lookups.forAll (fun earlier entry => (field (source earlier) document entry).map
        fun reasons => reasons.all Reason.matched) earlier asked.entries).map fun outcomes =>
          outcomes.all id := by
  rw [predicate, Lookups.map_map, Lookups.forAll_map, Lookups.map_map]
  simp only [List.all_map, List.all_flatten, Function.id_comp]

/-- The verdict on a filter is found from those on its predicates. -/
theorem map_matched_filter (earlier : List String) (numbered : Nat × Filter) :
    (filter source document earlier numbered).map FilterExplanation.matched =
      (Lookups.forAll (fun earlier asked =>
        (predicate source document earlier asked).map PredicateExplanation.matched) earlier
          numbered.2.predicates).map numbered.2.connective.combine := by
  rw [filter, Lookups.map_map, Lookups.forAll_map, Lookups.map_map]

end Levels

end Explain

namespace Query.Alike

section Verdict

variable {first second : Query} (queries : first.Alike second) {document other : Document}
  (documents : document.Alike other)

include queries documents

/-- Queries that are alike have the same verdict, or the same error. -/
theorem map_matched_explainThrough_eq (named : document.identifier? = other.identifier?)
    {source answers : GroupSource} (sources : source.Alike answers) (now : Instant) :
    (first.explainThrough source now document).map QueryExplanation.matched =
      (second.explainThrough answers now other).map QueryExplanation.matched := by
  have predicates (earlier : List String) ⦃asked another : Predicate⦄
      (alike : asked.Alike another) :
      (Explain.predicate source document earlier asked).map PredicateExplanation.matched =
        (Explain.predicate answers other earlier another).map PredicateExplanation.matched := by
    rw [Explain.map_matched_predicate, Explain.map_matched_predicate]
    refine congrArg (Lookups.map _) (Lookups.forAll_congr (fun before entry another same => ?_)
      alike earlier)
    exact Explain.map_matched_field_eq named (sources before) documents same.1 same.2
  have filters (earlier : List String) ⦃numbered another : Nat × Filter⦄
      (alike : numbered.2.Alike another.2) :
      (Explain.filter source document earlier numbered).map FilterExplanation.matched =
        (Explain.filter answers other earlier another).map FilterExplanation.matched := by
    rw [Explain.map_matched_filter, Explain.map_matched_filter, alike.connective]
    exact congrArg (Lookups.map _) (Lookups.forAll_congr predicates alike.predicates earlier)
  have verdicts (results : List FilterExplanation) :
      results.all FilterExplanation.matched =
        (results.map FilterExplanation.matched).all id := by
    rw [List.all_map, Function.id_comp]
  rw [map_explainThrough _ _ (List.all · id) verdicts,
    map_explainThrough _ _ (List.all · id) verdicts, queries.target]
  split
  · exact congrArg (Lookups.map _) (Lookups.forAll_congr filters
      (Explain.forall₂_numberedFilters (queries.expand now).filters) [])
  · rfl

/-- **Matching compares sets.** Queries that are alike and documents that are alike get the same
verdict or the same error from criteria without ranges, whatever the policy. With the same
identifier and sources that find the same groups, explaining has the same verdict or the same error
too, by the same lookups. -/
theorem verdict_eq (now : Instant) :
    (∀ policy, (first.criteria now policy).WithoutRanges →
      (first.criteria now policy).matches document = (second.criteria now policy).matches other) ∧
    (document.get? idField = other.get? idField → ∀ source answers : GroupSource,
      source.Alike answers →
        (first.explainThrough source now document).map QueryExplanation.matched =
          (second.explainThrough answers now other).map QueryExplanation.matched) := by
  constructor
  · exact fun _ unranged => queries.criteria.matches_eq unranged documents
  · intro same source answers sources
    refine map_matched_explainThrough_eq queries documents ?_ sources now
    rw [Document.identifier?, same, Document.identifier?]

end Verdict

/-- The same tags as a text and as a list with repetitions and null, and the same groups in two
orders. -/
theorem verdict_eq_reordered :
    let first : Query := ⟨.item, [⟨.and, [.ofEntries [
      ("tags", .options ⟨some (.many ["water", "maps", "water"]), none, none, some (.one "maps")⟩),
      ("group", .options ⟨none, some (.many ["g1", "g2"]), none, none⟩)]]⟩]⟩
    let second : Query := ⟨.item, [⟨.and, [.ofEntries [
      ("tags", .options ⟨some (.many ["maps", "water"]), none, none, some (.many ["maps"])⟩),
      ("group", .options ⟨none, some (.many ["g2", "g1", "g2"]), none, none⟩)]]⟩]⟩
    let document : Document := .ofMembers [("id", .string "i1"), ("tags", .string "maps")]
    let other : Document := .ofMembers [("id", .string "i1"), ("owner", .null),
      ("tags", .array [.string "maps", .null, .string "maps"])]
    let source : GroupSource := fun _ _ => .ok ⟨[⟨"g1", "Maps"⟩], [⟨"g2", "Staff"⟩], []⟩
    let answers : GroupSource := fun _ _ => .ok ⟨[], [⟨"g2", "Staff"⟩, ⟨"g1", "Maps"⟩], []⟩
    let policy : FieldPolicy := (· ≠ groupField)
    first.Alike second ∧ document.Alike other ∧ source.Alike answers ∧
      (first.criteria .epoch policy).WithoutRanges ∧
      (first.criteria .epoch policy).matches document =
        (second.criteria .epoch policy).matches other ∧
      (first.criteria .epoch policy).matches document = .ok true ∧
      (first.explainThrough source .epoch document).map QueryExplanation.matched =
        (second.explainThrough answers .epoch other).map QueryExplanation.matched ∧
      (first.explainThrough source .epoch document).map QueryExplanation.matched =
        ⟨["i1"], .ok true⟩ := by
  intro first second document other source answers policy
  have queries : first.Alike second := by
    refine ⟨rfl, .cons ⟨rfl, .cons (.cons ⟨rfl, ?_⟩ (.cons ⟨rfl, ?_⟩ .nil)) .nil⟩ .nil⟩
    · refine .options (by decide) (by decide) ⟨.some ?_, .none, .none, .some ?_⟩ <;>
        unfold Texts.Alike <;> decide
    · refine .options (by decide) (by decide) ⟨.none, .some ?_, .none, .none⟩
      unfold Texts.Alike
      decide
  have documents : document.Alike other := by
    intro field
    by_cases id : field = "id"
    · subst id
      exact .some fun _ => Iff.rfl
    · by_cases tags : field = "tags"
      · subst tags
        exact Option.Rel.some (by decide : SameTexts ["maps"] ["maps", "maps"])
      · have mine : document.members = [("id", .string "i1"), ("tags", .string "maps")] := rfl
        have theirs : other.members = [("id", .string "i1"), ("owner", .null),
          ("tags", .array [.string "maps", .null, .string "maps"])] := rfl
        by_cases owner : field = "owner" <;>
          simp [Document.value?, Document.get?, mine, theirs, KeyOrder.lookup_cons, id, tags, owner]
  have sources : source.Alike answers := fun _ _ =>
    .found (by decide : SameTexts ["g1", "g2"] ["g2", "g1"])
  have unranged : (first.criteria .epoch policy).WithoutRanges := by
    unfold Criteria.WithoutRanges Criteria.EveryTest
    decide
  obtain ⟨matching, explaining⟩ := verdict_eq queries documents .epoch
  exact ⟨queries, documents, sources, unranged, matching policy unranged, rfl,
    explaining rfl source answers sources, rfl⟩

end Query.Alike

end CatalogSearch
