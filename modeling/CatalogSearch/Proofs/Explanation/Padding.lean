import CatalogSearch.Proofs.Expansion.Padding
import CatalogSearch.Proofs.Explanation.Outcome

/-!
# Explanations of padded queries

A field that asks for nothing gives no reasons, so a query with such a field in addition has the
same verdicts by the same reasons (`Query.Padded.exists_explanation`). Groups are looked up all the
same for a field that asks for none of them. It makes no difference if every lookup for the document
finds the same groups, and otherwise it may (`Query.Padded.not_exists_explanation`).
-/

namespace CatalogSearch

namespace Lookups

variable {α β γ δ : Type}

/-- A traversal looks up what its first element does, and then what the rest does after it. -/
theorem calls_forAll_cons {explain : List String → α → Lookups β} {earlier : List String}
    {first : α} {rest : List α} {result : β}
    (explained : (explain earlier first).result = .ok result) :
    (forAll explain earlier (first :: rest)).calls = (explain earlier first).calls ++
      (forAll explain (earlier ++ (explain earlier first).calls) rest).calls := by
  rw [forAll, andThen_of_ok explained]
  rfl

/-- Whether the second explanation has a result if the first has, with related results and, after
all lookups, linked histories. -/
def Carries (outcome : β → δ → Prop) (linked : List String → List String → Prop)
    (before after : List String) (first : Lookups β) (second : Lookups δ) : Prop :=
  ∀ result, first.result = .ok result → ∃ other, second.result = .ok other ∧
    outcome result other ∧ linked (before ++ first.calls) (after ++ second.calls)

variable {outcome : β → δ → Prop} {linked : List String → List String → Prop}
  {before after : List String}

/-- Results that are carried over stay so under changes that keep them related. -/
theorem Carries.map {ε ζ : Type} {first : Lookups β} {second : Lookups δ}
    (carries : Carries outcome linked before after first second) {change : β → ε}
    {other : δ → ζ} {further : ε → ζ → Prop}
    (related : ∀ result another, outcome result another → further (change result) (other another)) :
    Carries further linked before after (first.map change) (second.map other) := by
  intro result explained
  obtain ⟨given, succeeded, rfl⟩ := map_eq_ok.mp explained
  obtain ⟨another, explained, same, history⟩ := carries given succeeded
  exact ⟨_, map_eq_ok.mpr ⟨another, explained, rfl⟩, related given another same, history⟩

/-- Results that are carried over are so under a weaker relation. -/
theorem Carries.imp {first : Lookups β} {second : Lookups δ} {further : β → δ → Prop}
    (carries : Carries outcome linked before after first second)
    (weaker : ∀ result other, outcome result other → further result other) :
    Carries further linked before after first second := by
  intro result explained
  obtain ⟨other, answered, related, history⟩ := carries result explained
  exact ⟨other, answered, weaker result other related, history⟩

/-- Traversals carry results over if they do so for related elements after linked histories. -/
theorem Carries.forAll {relation : α → γ → Prop} {explain : List String → α → Lookups β}
    {other : List String → γ → Lookups δ}
    (each : ∀ before after, linked before after → ∀ element another, relation element another →
      Carries outcome linked before after (explain before element) (other after another))
    {elements : List α} {others : List γ} (related : List.Forall₂ relation elements others)
    (start : linked before after) :
    Carries (List.Forall₂ outcome) linked before after (Lookups.forAll explain before elements)
      (Lookups.forAll other after others) := by
  induction related generalizing before after with
  | nil =>
      intro result explained
      cases explained
      exact ⟨[], rfl, .nil, by simpa [Lookups.forAll, done] using start⟩
  | @cons element another _ _ same _ ih =>
      intro results explained
      obtain ⟨result, rest, first, later, rfl⟩ := forAll_cons_eq_ok.mp explained
      obtain ⟨answer, answered, alike, history⟩ := each before after start element another same
        result first
      obtain ⟨answers, all, alikes, histories⟩ := ih history rest later
      refine ⟨answer :: answers, forAll_cons_eq_ok.mpr ⟨_, _, answered, all, rfl⟩,
        .cons alike alikes, ?_⟩
      rwa [calls_forAll_cons first, calls_forAll_cons answered, ← List.append_assoc,
        ← List.append_assoc]

end Lookups

namespace Explain

/-- The engine takes options without texts for vacuous. -/
theorem isVacuous_of_asksNothing {options : MatchOptions} (idle : options.AsksNothing) :
    isVacuous options = true := by
  have part {part : Option Texts}
      (member : part ∈ [options.any, options.all, options.not, options.exact]) :
      (MatchOptions.nonempty? part).isNone = true := by
    cases given : part with
    | none => rfl
    | some texts =>
        have empty : texts.isEmpty = true := List.isEmpty_iff.mpr (idle part member texts given)
        simp only [MatchOptions.nonempty?, empty, ↓reduceIte, Option.isNone_none]
  simp only [isVacuous, Bool.and_eq_true]
  exact ⟨⟨⟨part (by simp), part (by simp)⟩, part (by simp)⟩, part (by simp)⟩

/-- Whether the document has an identifier, and every lookup of it finds groups. -/
def FindsGroups (source : GroupSource) (document : Document) : Prop :=
  ∃ id, document.identifier? = some id ∧ ∀ earlier, ∃ groups, source earlier id = .ok groups

/-- Whether all lookups for the document have the same answer. -/
def AnswersAlike (source : GroupSource) (document : Document) : Prop :=
  ∀ id ∈ document.identifier?, ∀ earlier later, source earlier id = source later id

/-- Whether it makes no difference for a field which lookups came before. -/
def IsSettled (source : GroupSource) (document : Document) (entry : String × FieldCondition) :
    Prop :=
  ∀ before after, field (source before) document entry = field (source after) document entry

section Settled

variable {source : GroupSource} {document : Document}

/-- If the document is always answered alike, no field depends on earlier lookups. -/
theorem isSettled_of_answersAlike (alike : AnswersAlike source document)
    (entry : String × FieldCondition) : IsSettled source document entry := by
  intro before after
  refine field_congr fun options _ => ?_
  cases named : document.identifier? with
  | none => rw [groupReasons_of_anonymous named, groupReasons_of_anonymous named]
  | some id =>
      rw [groupReasons_of_named named, groupReasons_of_named named, lookup, lookup,
        alike id named before after]

/-- The fields of an explained query are settled if nothing was looked up, or if every lookup has
the same answer. -/
theorem isSettled_of_explainThrough {query : Query} {now : Instant}
    {explanation : QueryExplanation}
    (explained : (query.explainThrough source now document).result = .ok explanation)
    (alike : (query.explainThrough source now document).calls ≠ [] →
      AnswersAlike source document) :
    ∀ entry ∈ (query.expand now).entries, IsSettled source document entry := by
  intro entry member
  by_cases none : (query.explainThrough source now document).calls = []
  · have items := (Query.explainThrough_eq_ok.mp explained).1
    rw [Query.calls_of_explainThrough items explained, List.flatMap_eq_nil_iff] at none
    exact fun _ _ => field_of_asked_eq_nil (none entry member)
  · exact isSettled_of_answersAlike (alike none) entry

end Settled

/-- Whether histories are the same unless they differ by lookups for the field. -/
def Linked (name : String) (before after : List String) : Prop :=
  name = groupField ∨ before = after

section Fields

variable {source : GroupSource} {document : Document} {name : String}
  {before after : List String} (linked : Linked name before after)

include linked

theorem Linked.append (calls : List String) : Linked name (before ++ calls) (after ++ calls) :=
  linked.imp_right (congrArg (· ++ calls))

/-- A field other than that for groups looks nothing up. -/
theorem Linked.skip (condition : FieldCondition) :
    Linked name before (after ++ (field (source after) document (name, condition)).calls) := by
  by_cases group : name = groupField
  · exact .inl group
  · rw [calls_field, asked_of_ne group, List.append_nil]
    exact linked

/-- After linked histories, a field is explained alike. -/
theorem field_of_linked {entry : String × FieldCondition}
    (settled : name = groupField → IsSettled source document entry) :
    field (source before) document entry = field (source after) document entry := by
  rcases linked with group | rfl
  · exact settled group before after
  · rfl

/-- A field carries its reasons over, if they do not depend on earlier lookups. -/
theorem carries_field {entry : String × FieldCondition}
    (settled : name = groupField → IsSettled source document entry) :
    Lookups.Carries Eq (Linked name) before after (field (source before) document entry)
      (field (source after) document entry) := by
  rw [field_of_linked linked settled]
  exact fun result explained => ⟨result, explained, rfl, linked.append _⟩

omit linked

/-- A field that asks for nothing gives no reasons. -/
theorem field_of_asksNothing (finds : name = groupField → FindsGroups source document)
    (matching : FieldKind.ofName name = .matching) {options : MatchOptions}
    (idle : options.AsksNothing) :
    (field (source after) document (name, .options options)).result = .ok [] := by
  have none (value information : Option Json) : reasons name options value information = [] :=
    if_pos (isVacuous_of_asksNothing idle)
  rw [field_options matching]
  split
  · rename_i group
    obtain ⟨id, named, found⟩ := finds group
    obtain ⟨groups, found⟩ := found after
    rw [groupReasons_of_named named, lookup, found, ← group]
    exact congrArg Except.ok (none _ _)
  · exact congrArg Except.ok (none _ _)

/-- Fields that ask for nothing can be left out. -/
theorem carries_fields (finds : name = groupField → FindsGroups source document)
    (matching : FieldKind.ofName name = .matching) {entries : FieldEntries}
    (idle : ∀ condition, (name, condition) ∈ entries → condition.IsIdleOptions)
    (settled : name = groupField →
      ∀ entry ∈ entries.restrict (· != name), IsSettled source document entry)
    (linked : Linked name before after) :
    Lookups.Carries (fun results others => results.flatten = others.flatten) (Linked name) before
      after
      (Lookups.forAll (fun earlier => field (source earlier) document) before
        (entries.restrict (· != name)))
      (Lookups.forAll (fun earlier => field (source earlier) document) after entries) := by
  induction entries generalizing before after with
  | nil =>
      intro results explained
      cases explained
      exact ⟨[], rfl, rfl, linked.append []⟩
  | cons entry rest ih =>
      obtain ⟨field, condition⟩ := entry
      have later condition (member : (name, condition) ∈ rest) :=
        idle condition (List.mem_cons_of_mem _ member)
      intro results explained
      by_cases same : field = name
      · subst same
        have deleted : FieldEntries.restrict (· != field) ((field, condition) :: rest) =
          FieldEntries.restrict (· != field) rest := List.filter_cons_of_neg (by simp)
        rw [deleted] at explained settled ⊢
        obtain ⟨options, rfl, nothing⟩ := idle condition List.mem_cons_self
        have first : (Explain.field (source after) document (field, .options options)).result =
          .ok [] := field_of_asksNothing finds matching nothing
        obtain ⟨others, all, alike, histories⟩ :=
          ih later settled (linked.skip (.options options)) results explained
        refine ⟨[] :: others, Lookups.forAll_cons_eq_ok.mpr ⟨_, _, first, all, rfl⟩, alike, ?_⟩
        rwa [Lookups.calls_forAll_cons first, ← List.append_assoc]
      · have kept : FieldEntries.restrict (· != name) ((field, condition) :: rest) =
          (field, condition) :: FieldEntries.restrict (· != name) rest :=
            List.filter_cons_of_pos (by simpa using same)
        rw [kept] at explained settled ⊢
        obtain ⟨result, others, first, remaining, rfl⟩ := Lookups.forAll_cons_eq_ok.mp explained
        obtain ⟨_, again, rfl, history⟩ := carries_field linked
          (fun group => settled group _ List.mem_cons_self) result first
        obtain ⟨answers, all, alike, histories⟩ := ih later
          (fun group entry member => settled group entry (List.mem_cons_of_mem _ member)) history
            others remaining
        refine ⟨result :: answers, Lookups.forAll_cons_eq_ok.mpr ⟨_, _, again, all, rfl⟩,
          congrArg (result ++ ·) alike, ?_⟩
        rwa [Lookups.calls_forAll_cons first, Lookups.calls_forAll_cons again,
          ← List.append_assoc, ← List.append_assoc]

end Fields

end Explain

/-- Whether explanations of predicates differ at most in a field that asks for nothing. -/
structure PredicateExplanation.SameOutcome (field : String)
    (first second : PredicateExplanation) : Prop where
  predicate : first.predicate.Padded FieldCondition.IsIdleOptions field second.predicate
  matched : first.matched = second.matched
  reasons : first.reasons = second.reasons

/-- Whether two explanations of filters agree on everything but the field that was added. -/
structure FilterExplanation.SameOutcome (field : String) (first second : FilterExplanation) :
    Prop where
  source : first.source = second.source
  filter : first.filter.Padded FieldCondition.IsIdleOptions field second.filter
  matched : first.matched = second.matched
  reasons : List.Forall₂ (PredicateExplanation.SameOutcome field) first.reasons second.reasons

/-- Whether two explanations of queries agree on everything but the field that was added. -/
structure QueryExplanation.SameOutcome (field : String) (first second : QueryExplanation) :
    Prop where
  document : first.document = second.document
  query : first.query.Padded FieldCondition.AsksNothing field second.query
  matched : first.matched = second.matched
  reasons : List.Forall₂ (FilterExplanation.SameOutcome field) first.reasons second.reasons
  summary : first.summary = second.summary

namespace Explain

section Levels

variable {source : GroupSource} {document : Document} {name : String}
  (finds : name = groupField → FindsGroups source document)
  (matching : FieldKind.ofName name = .matching)
  {before after : List String} (linked : Linked name before after)

include finds matching linked

/-- A predicate carries its explanation over when it gets a field that asks for nothing. -/
theorem carries_predicate {asked other : Predicate}
    (padded : asked.Padded FieldCondition.IsIdleOptions name other)
    (settled : name = groupField → ∀ entry ∈ asked.entries, IsSettled source document entry) :
    Lookups.Carries (PredicateExplanation.SameOutcome name) (Linked name) before after
      (predicate source document before asked) (predicate source document after other) := by
  have fields : Lookups.Carries (fun results others => results.flatten = others.flatten)
      (Linked name) before after
      (Lookups.forAll (fun earlier => field (source earlier) document) before asked.entries)
      (Lookups.forAll (fun earlier => field (source earlier) document) after other.entries) := by
    cases padded with
    | same =>
        have unchanged : Lookups.Carries (List.Forall₂ Eq) (Linked name) before after
            (Lookups.forAll (fun earlier => field (source earlier) document) before asked.entries)
            (Lookups.forAll (fun earlier => field (source earlier) document) after
              asked.entries) :=
          .forAll (fun _ _ linked entry another (same : entry ∈ asked.entries ∧ entry = another) =>
            same.2 ▸ carries_field linked fun group => settled group entry same.1)
              (List.forall₂_same.mpr fun _ member => ⟨member, rfl⟩) linked
        refine unchanged.imp fun results others same => ?_
        rw [List.forall₂_eq_eq_eq] at same
        rw [same]
    | added held idle rest =>
        subst rest
        refine carries_fields finds matching (fun condition member => ?_) settled linked
        cases held.symm.trans (Predicate.get?_eq_some_iff.mpr member)
        exact idle
  exact fields.map fun results others same => ⟨padded, by rw [same], same⟩

/-- A filter carries its explanation over when its predicates get a field that asks for nothing. -/
theorem carries_filter {numbered other : Nat × Filter} (place : numbered.1 = other.1)
    (padded : numbered.2.Padded FieldCondition.IsIdleOptions name other.2)
    (settled : name = groupField → ∀ predicate ∈ numbered.2.predicates,
      ∀ entry ∈ predicate.entries, IsSettled source document entry) :
    Lookups.Carries (FilterExplanation.SameOutcome name) (Linked name) before after
      (filter source document before numbered) (filter source document after other) := by
  have predicates : Lookups.Carries (List.Forall₂ (PredicateExplanation.SameOutcome name))
      (Linked name) before after
      (Lookups.forAll (predicate source document) before numbered.2.predicates)
      (Lookups.forAll (predicate source document) after other.2.predicates) :=
    .forAll (fun _ _ linked asked other (related : asked ∈ numbered.2.predicates ∧
        asked.Padded FieldCondition.IsIdleOptions name other) =>
      carries_predicate finds matching linked related.2 fun group => settled group asked related.1)
        ((List.forall₂_and_left _ _).mpr ⟨fun _ => id, padded.predicates⟩) linked
  refine predicates.map fun results others same => ?_
  have verdicts : results.map PredicateExplanation.matched =
      others.map PredicateExplanation.matched := map_eq_of_forall₂ same fun _ _ same => same.matched
  exact ⟨place, padded, by rw [padded.connective, verdicts], same⟩

end Levels

/-- Numbered filters are related one by one, and at the same positions, if filters become related
ones. -/
theorem forall₂_numberedFilters_of_expand {relation : Filter → Filter → Prop} {now : Instant}
    {first second : List Filter}
    (related : List.Forall₂ (fun filter other =>
      List.Forall₂ relation (filter.expand now) (other.expand now)) first second)
    (position : Nat) :
    List.Forall₂ (fun numbered other => numbered.1 = other.1 ∧ relation numbered.2 other.2)
      (numberedFilters now position first) (numberedFilters now position second) := by
  induction related generalizing position with
  | nil => exact .nil
  | cons same _ ih =>
      exact List.rel_append (List.rel_map (fun _ _ related => ⟨rfl, related⟩) same)
        (ih (position + 1))

end Explain

/-- **A field that asks for nothing imposes nothing.** A query that can be explained can be
explained with such a field in addition, if it is matched and takes no part in expansion, and
everything comes out the same: verdicts, reasons and summary. For the field of groups, the document
must have an identifier for which every lookup finds groups, and the same ones each time if the
query looks groups up itself. -/
theorem Query.Padded.exists_explanation {field : String} {first second : Query}
    (padded : first.Padded FieldCondition.AsksNothing field second)
    (matching : FieldKind.ofName field = .matching) (ordinary : Predicate.IsOrdinary field)
    {source : GroupSource} {now : Instant} {document : Document} {explanation : QueryExplanation}
    (explained : (first.explainThrough source now document).result = .ok explanation)
    (finds : field = groupField → Explain.FindsGroups source document)
    (alike : field = groupField → (first.explainThrough source now document).calls ≠ [] →
      Explain.AnswersAlike source document) :
    ∃ other, (second.explainThrough source now document).result = .ok other ∧
      explanation.SameOutcome field other := by
  have settled (group : field = groupField) :=
    Explain.isSettled_of_explainThrough explained (alike group)
  obtain ⟨items, results, filters, rfl⟩ := explainThrough_eq_ok.mp explained
  have related := Explain.forall₂_numberedFilters_of_expand
    (padded.filters.imp fun _ _ padded => padded.expand ordinary matching now) 0
  have carries : Lookups.Carries (List.Forall₂ (FilterExplanation.SameOutcome field))
      (Explain.Linked field) [] []
      (Lookups.forAll (Explain.filter source document) []
        (Explain.numberedFilters now 0 first.filters))
      (Lookups.forAll (Explain.filter source document) []
        (Explain.numberedFilters now 0 second.filters)) :=
    .forAll (fun _ _ linked _ _ related => Explain.carries_filter finds matching linked
        related.2.1 related.2.2 fun group predicate inside entry held => settled group entry
          (Explain.mem_entries_of_mem_numberedFilters related.1 inside held))
      ((List.forall₂_and_left _ _).mpr ⟨fun _ => id, related⟩) (.inr rfl)
  obtain ⟨others, explained, same, _⟩ := carries results filters
  have verdicts : results.map FilterExplanation.matched = others.map FilterExplanation.matched :=
    map_eq_of_forall₂ same fun _ _ same => same.matched
  refine ⟨_, explainThrough_eq_ok.mpr ⟨padded.target ▸ items, others, explained, rfl⟩,
    rfl, padded, ?_, same, ?_⟩
  · have all := congrArg (fun outcomes => outcomes.all id) verdicts
    simpa only [List.all_map, Function.id_comp] using all
  · have parts : List.Forall₂ (PredicateExplanation.SameOutcome field)
        (results.flatMap FilterExplanation.reasons) (others.flatMap FilterExplanation.reasons) :=
      List.rel_flatMap same fun _ _ same => same.reasons
    have reasons := map_eq_of_forall₂ parts fun _ _ same => same.reasons
    rw [List.flatMap_def, reasons, ← List.flatMap_def]

/-- Groups that are asked for twice, once for nothing. -/
theorem Query.Padded.exists_explanation_grouped :
    let first : Query := ⟨.item, [⟨.and, [.ofEntries [("tags", .list ["maps"])],
      .ofEntries [("group", .list ["g1"])]]⟩]⟩
    let second : Query := ⟨.item, [⟨.and, [
      .ofEntries [("group", .options ⟨some (.many []), none, none, none⟩),
        ("tags", .list ["maps"])],
      .ofEntries [("group", .list ["g1"])]]⟩]⟩
    let source : GroupSource := fun _ _ => .ok ⟨[], [⟨"g1", "Maps"⟩], []⟩
    let document : Document := .ofMembers [("id", .string "i1"), ("tags", .string "maps")]
    first.Padded FieldCondition.AsksNothing "group" second ∧
      Explain.FindsGroups source document ∧ Explain.AnswersAlike source document ∧
      ∃ explanation other,
        (first.explainThrough source .epoch document).result = .ok explanation ∧
        explanation.matched = true ∧ explanation.summary.length = 2 ∧
        (second.explainThrough source .epoch document).result = .ok other ∧
        explanation.SameOutcome "group" other := by
  intro first second source document
  have nothing : MatchOptions.AsksNothing ⟨some (.many []), none, none, none⟩ := by
    simp [MatchOptions.AsksNothing, Texts.toList]
  have padded : first.Padded FieldCondition.AsksNothing "group" second :=
    ⟨rfl, .cons ⟨rfl, .cons (.added rfl (.options nothing) rfl) (.cons (.same _) .nil)⟩ .nil⟩
  have finds : Explain.FindsGroups source document := ⟨"i1", rfl, fun _ => ⟨_, rfl⟩⟩
  have alike : Explain.AnswersAlike source document := fun _ _ _ _ => rfl
  obtain ⟨explanation, explained, matched, reasons⟩ : ∃ explanation,
      (first.explainThrough source .epoch document).result = .ok explanation ∧
        explanation.matched = true ∧ explanation.summary.length = 2 := ⟨_, rfl, rfl, rfl⟩
  obtain ⟨other, again, same⟩ := padded.exists_explanation rfl
    ⟨by decide, by decide, by decide⟩ explained (fun _ => finds) fun _ _ => alike
  exact ⟨padded, finds, alike, explanation, other, explained, matched, reasons, again, same⟩

/-- A field that asks for no groups is looked up all the same. The lookup may be refused, and it may
change the answer to a later one. -/
theorem Query.Padded.not_exists_explanation :
    let asked : FieldCondition := .options ⟨some (.many []), none, none, none⟩
    let tagged : Predicate := .ofEntries [("tags", .list ["maps"])]
    let padded : Predicate := .ofEntries [("tags", .list ["maps"]), ("group", asked)]
    let grouped : Predicate := .ofEntries [("group", .list ["g1"])]
    let document : Document := .ofMembers [("id", .string "i1"), ("tags", .string "maps")]
    (let first : Query := ⟨.item, [⟨.and, [tagged]⟩]⟩
      let second : Query := ⟨.item, [⟨.and, [padded]⟩]⟩
      let source : GroupSource := fun _ _ => .error (.collaborator "down")
      first.Padded FieldCondition.AsksNothing "group" second ∧
        (∃ explanation, (first.explainThrough source .epoch document).result = .ok explanation) ∧
        (second.explainThrough source .epoch document).result = .error (.collaborator "down")) ∧
    (let first : Query := ⟨.item, [⟨.and, [tagged, grouped]⟩]⟩
      let second : Query := ⟨.item, [⟨.and, [padded, grouped]⟩]⟩
      let source : GroupSource := fun earlier _ =>
        if earlier.isEmpty then .ok ⟨[⟨"g1", "Maps"⟩], [], []⟩ else .ok .empty
      first.Padded FieldCondition.AsksNothing "group" second ∧
        (first.explainThrough source .epoch document).map QueryExplanation.matched =
          ⟨["i1"], .ok true⟩ ∧
        (second.explainThrough source .epoch document).map QueryExplanation.matched =
          ⟨["i1", "i1"], .ok false⟩) := by
  intro asked tagged padded grouped document
  have nothing : MatchOptions.AsksNothing ⟨some (.many []), none, none, none⟩ := by
    simp [MatchOptions.AsksNothing, Texts.toList]
  have added : tagged.Padded FieldCondition.AsksNothing "group" padded :=
    .added rfl (.options nothing) rfl
  exact ⟨⟨⟨rfl, .cons ⟨rfl, .cons added .nil⟩ .nil⟩, ⟨_, rfl⟩, rfl⟩,
    ⟨⟨rfl, .cons ⟨rfl, .cons added (.cons (.same _) .nil)⟩ .nil⟩, rfl, rfl⟩⟩

end CatalogSearch
