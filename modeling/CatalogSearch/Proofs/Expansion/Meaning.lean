import CatalogSearch.Proofs.Criteria.Satisfaction

/-!
# What shortcuts mean

A document matches an alternative of a predicate that names shortcuts when it satisfies the other
conditions, what the condition on types asks beside its choices, and one of the choices: the types
that the predicate names itself, or all fields of a fragment (`Predicate.matches_alternatives_iff`).
This needs a predicate without keywords. Keywords are the one condition on another field that an
alternative may lack, where a fragment brings keywords of its own
(`Predicate.isSatisfied_of_matches_alternative`).
-/

namespace CatalogSearch

/-- What remains of a condition on types without its shortcuts and without its other parts: the
texts it names itself, if any, or all of a condition that names no texts. -/
def FieldCondition.ownTypes? (condition : FieldCondition) : Option FieldCondition :=
  match condition with
  | .text _ | .list _ | .options _ =>
      let own := condition.choices.filter fun text => !Shortcut.isShortcut text
      if own.isEmpty then none else some (.list own)
  | other => some other

/-- Whether a document has one of the texts on every field of a fragment. -/
def Fragment.isSatisfied (now : Instant) (document : Document) (fragment : Fragment) : Bool :=
  fragment.all fun (field, texts) => (FieldCondition.list texts).isSatisfied now document field

namespace Predicate

/-- The condition on the types that a predicate names itself, if there is one. -/
def ownTypes? (predicate : Predicate) : Option FieldCondition :=
  (predicate.get? typeField).bind FieldCondition.ownTypes?

/-- What a predicate that names shortcuts asks of a document: its conditions on other fields, all
parts of its match options on types except `any`, and one of its choices. There may be none, when it
names no types itself and none of its shortcuts is registered. -/
structure IsFulfilled (now : Instant) (document : Document) (predicate : Predicate) : Prop where
  others : ∀ field condition, predicate.get? field = some condition → field ≠ typeField →
    field ≠ subFiltersField → condition.isSatisfied now document field = true
  constraints : ∀ options, predicate.get? typeField = some (.options options) →
    (FieldCondition.options { options with any := none }).isSatisfied now document typeField = true
  choice : (predicate.ownTypes? = none ∧
      ∀ shortcut ∈ predicate.shortcuts, Shortcut.fragments? shortcut = none) ∨
    (∃ own, predicate.ownTypes? = some own ∧ own.isSatisfied now document typeField = true) ∨
    ∃ shortcut ∈ predicate.shortcuts, ∃ fragments, Shortcut.fragments? shortcut = some fragments ∧
      ∃ fragment ∈ fragments, fragment.isSatisfied now document = true

end Predicate

variable {now : Instant} {document : Document}

namespace TypeSelection

/-- What is left besides shortcuts has the outcome of the texts that are left. -/
theorem map_restOf {texts : List String} {make : List String → FieldCondition}
    {outcome other : FieldCondition → Bool} (same : ∀ own, outcome (make own) = other (.list own)) :
    (restOf texts make).map outcome = (restOf texts .list).map other := by
  unfold restOf
  dsimp only
  split
  · rfl
  · rw [Option.map_some, Option.map_some, same]

/-- The types that a condition names itself are selected together with what else it asks. -/
theorem map_isSatisfied_rest (now : Instant) (document : Document) (condition : FieldCondition) :
    (ofCondition condition).rest.map (FieldCondition.isSatisfied now document typeField) =
      condition.ownTypes?.map fun own => own.isSatisfied now document typeField &&
        (FieldCondition.options (ofCondition condition).constraints).isSatisfied now document
          typeField := by
  have free : (FieldCondition.options .empty).isSatisfied now document typeField = true := rfl
  cases condition with
  | text value =>
      cases shortcut : Shortcut.isShortcut value with
      | true => simp [ofCondition, FieldCondition.ownTypes?, FieldCondition.choices, shortcut]
      | false =>
          -- A text stays a text here, and counts as the list of that text only once it is expanded.
          have same : (FieldCondition.text value).isSatisfied now document typeField =
              (FieldCondition.list [value]).isSatisfied now document typeField := by
            rw [← FieldCondition.isSatisfied_expand, ← FieldCondition.isSatisfied_ofAny]
            rfl
          simp [ofCondition, FieldCondition.ownTypes?, FieldCondition.choices, shortcut, free, same]
  | list values => exact map_restOf fun own => (Bool.and_true _).symm
  | options value =>
      have rest : (ofCondition (.options value)).rest =
          restOf (FieldCondition.options value).choices fun own =>
            .options { value with any := some (.many own) } := rfl
      have own : (FieldCondition.options value).ownTypes? =
          restOf (FieldCondition.options value).choices .list := rfl
      rw [rest, own]
      apply map_restOf
      exact FieldCondition.isSatisfied_withAny typeField value
  | _ => simp only [ofCondition, FieldCondition.ownTypes?, free, Bool.and_true, Option.map_some]

end TypeSelection

namespace Predicate

section Selection

variable {predicate : Predicate}

/-- What a predicate asks of its type besides shortcuts is what its own types and its constraints
ask. -/
theorem map_isSatisfied_rest (now : Instant) (document : Document) (predicate : Predicate) :
    predicate.typeSelection.rest.map (FieldCondition.isSatisfied now document typeField) =
      predicate.ownTypes?.map fun own => own.isSatisfied now document typeField &&
        (FieldCondition.options predicate.typeSelection.constraints).isSatisfied now document
          typeField := by
  unfold typeSelection ownTypes?
  cases predicate.get? typeField with
  | none => rfl
  | some condition => exact TypeSelection.map_isSatisfied_rest now document condition

/-- Nothing is asked besides shortcuts exactly if a predicate has no types of its own. -/
theorem rest_eq_none_iff : predicate.typeSelection.rest = none ↔ predicate.ownTypes? = none := by
  -- Which document is asked does not matter for whether there is a condition to ask.
  have same := congrArg Option.isNone (predicate.map_isSatisfied_rest .epoch .empty)
  rwa [Option.isNone_map, Option.isNone_map, Bool.eq_iff_iff, Option.isNone_iff_eq_none,
    Option.isNone_iff_eq_none] at same

/-- What is asked besides shortcuts is satisfied exactly if the own types and the constraints are.
-/
theorem exists_rest_iff :
    (∃ rest, predicate.typeSelection.rest = some rest ∧
        rest.isSatisfied now document typeField = true) ↔
      (∃ own, predicate.ownTypes? = some own ∧ own.isSatisfied now document typeField = true) ∧
        (FieldCondition.options predicate.typeSelection.constraints).isSatisfied now document
          typeField = true := by
  rw [← Option.map_eq_some_iff, map_isSatisfied_rest, Option.map_eq_some_iff]
  simp only [Bool.and_eq_true, ← and_assoc, exists_and_right]

/-- The constraints are the parts of match options on types except `any`. -/
theorem isSatisfied_constraints_iff :
    (FieldCondition.options predicate.typeSelection.constraints).isSatisfied now document
        typeField = true ↔
      ∀ options, predicate.get? typeField = some (.options options) →
        (FieldCondition.options { options with any := none }).isSatisfied now document
          typeField = true := by
  have free : (FieldCondition.options .empty).isSatisfied now document typeField = true := rfl
  unfold typeSelection
  cases predicate.get? typeField with
  | none => simp [TypeSelection.absent, free]
  | some condition =>
      cases condition with
      | options value => simp [TypeSelection.ofCondition]
      | text value =>
          simp only [TypeSelection.ofCondition]
          split <;> simp [free]
      | _ => simp [TypeSelection.ofCondition, free]

/-- There are no fragments exactly if no shortcut is registered. -/
theorem fragments_eq_nil_iff : predicate.fragments = [] ↔
    ∀ shortcut ∈ predicate.shortcuts, Shortcut.fragments? shortcut = none := by
  rw [fragments, List.flatMap_eq_nil_iff]
  apply forall₂_congr
  intro shortcut _
  cases registered : Shortcut.fragments? shortcut with
  | none => simp
  | some fragments => simp [Shortcut.fragments_ne_nil registered]

end Selection

/-- Without types and shortcuts, the conditions on the other fields remain. -/
theorem isSatisfied_withoutTypes_iff {predicate : Predicate} :
    predicate.withoutTypes.isSatisfied now document = true ↔
      ∀ field condition, predicate.get? field = some condition → field ≠ typeField →
        field ≠ subFiltersField → condition.isSatisfied now document field = true := by
  rw [isSatisfied_iff]
  apply forall_congr'
  intro field
  rw [get?_withoutTypes]
  by_cases names : field = typeField ∨ field = subFiltersField
  · rw [if_pos names]
    constructor
    · intro _ condition _ notTypes notNames
      exact absurd names (not_or.mpr ⟨notTypes, notNames⟩)
    · intro _ condition held
      exact absurd held.symm (Option.some_ne_none condition)
  · rw [if_neg names]
    obtain ⟨notTypes, notNames⟩ := not_or.mp names
    constructor
    · intro satisfied condition held _ _
      exact satisfied condition held
    · intro satisfied condition held
      exact satisfied condition held notTypes notNames

/-- Adding the constraints to a predicate that asks nothing of types. -/
theorem isSatisfied_withConstraints_iff {predicate : Predicate} {constraints : MatchOptions}
    (absent : predicate.get? typeField = none) :
    (predicate.withConstraints constraints).isSatisfied now document = true ↔
      predicate.isSatisfied now document = true ∧
        (FieldCondition.options constraints).isSatisfied now document typeField = true := by
  unfold withConstraints
  cases empty : constraints.isEmpty with
  | true =>
      have same : constraints = .empty := by
        obtain ⟨any, all, not, exact⟩ := constraints
        simpa [MatchOptions.isEmpty, MatchOptions.empty, and_assoc] using empty
      rw [if_pos rfl, same]
      exact ⟨fun satisfied => ⟨satisfied, rfl⟩, And.left⟩
  | false =>
      rw [if_neg Bool.false_ne_true]
      exact isSatisfied_insert_iff absent

section Fragments

variable {predicate : Predicate} {constraints : MatchOptions} {fragment : Fragment}

/-- A fragment asks for one of its texts on a field, and on types for the constraints too. -/
theorem isSatisfied_fragmentCondition_iff (withoutAny : constraints.any = none) {field : String}
    {texts : List String} :
    (fragmentCondition constraints field texts).isSatisfied now document field = true ↔
      (FieldCondition.list texts).isSatisfied now document field = true ∧
        (field = typeField →
          (FieldCondition.options constraints).isSatisfied now document typeField = true) := by
  have same : { constraints with any := none } = constraints := by rw [← withoutAny]
  unfold fragmentCondition
  by_cases types : field = typeField
  · subst types
    rw [if_pos rfl, FieldCondition.isSatisfied_withAny, same, Bool.and_eq_true]
    simp only [true_implies]
  · rw [if_neg types, FieldCondition.isSatisfied_ofAny]
    exact ⟨fun satisfied => ⟨satisfied, fun same => absurd same types⟩, And.left⟩

/-- Adding a fragment asks for all its fields, and for the constraints. -/
theorem fragment_isSatisfied (regular : fragment.IsRegular) (withoutAny : constraints.any = none)
    (satisfied : (predicate.applyFragment constraints fragment).isSatisfied now document = true) :
    fragment.isSatisfied now document = true ∧
      (FieldCondition.options constraints).isSatisfied now document typeField = true := by
  have each (entry) (constrained : entry ∈ fragment) :=
    (isSatisfied_fragmentCondition_iff withoutAny).mp
      (isSatisfied_iff.mp satisfied entry.1 _ (get?_applyFragment_of_mem regular constrained))
  constructor
  · rw [Fragment.isSatisfied, List.all_eq_true]
    exact fun entry constrained => (each entry constrained).1
  · obtain ⟨entry, constrained, types⟩ := List.mem_map.mp regular.typed
    exact (each entry constrained).2 types

/-- Where a predicate has none of the fields of a fragment, nothing else is lost or added. -/
theorem isSatisfied_applyFragment_iff (regular : fragment.IsRegular)
    (withoutAny : constraints.any = none)
    (absent : ∀ entry ∈ fragment, predicate.get? entry.1 = none) :
    (predicate.applyFragment constraints fragment).isSatisfied now document = true ↔
      predicate.isSatisfied now document = true ∧ fragment.isSatisfied now document = true ∧
        (FieldCondition.options constraints).isSatisfied now document typeField = true := by
  constructor
  · intro satisfied
    -- A condition that the predicate has is not on a field of the fragment, so it stays.
    refine ⟨isSatisfied_iff.mpr fun field condition held => ?_,
      fragment_isSatisfied regular withoutAny satisfied⟩
    have outside : field ∉ fragment.map Prod.fst := by
      intro inside
      obtain ⟨entry, constrained, rfl⟩ := List.mem_map.mp inside
      rw [absent entry constrained] at held
      exact absurd held.symm (Option.some_ne_none condition)
    apply isSatisfied_iff.mp satisfied
    rw [get?_applyFragment_of_not_mem regular outside, held]
  · rintro ⟨others, fulfilled, constraints⟩
    rw [isSatisfied_iff]
    intro field condition held
    by_cases inside : field ∈ fragment.map Prod.fst
    · obtain ⟨entry, constrained, rfl⟩ := List.mem_map.mp inside
      rw [get?_applyFragment_of_mem regular constrained] at held
      obtain rfl := Option.some.inj held
      exact (isSatisfied_fragmentCondition_iff withoutAny).mpr
        ⟨List.all_eq_true.mp fulfilled entry constrained, fun _ => constraints⟩
    · rw [get?_applyFragment_of_not_mem regular inside] at held
      exact isSatisfied_iff.mp others field condition held

/-- A predicate without keywords has no field of a fragment once its types are left out. -/
theorem get?_withoutTypes_of_mem_fragment (withoutKeywords : predicate.get? keywordsField = none)
    (regular : fragment.IsRegular) :
    ∀ entry ∈ fragment, predicate.withoutTypes.get? entry.1 = none := by
  intro entry constrained
  rw [get?_withoutTypes]
  rcases regular.fields entry constrained with types | keywords
  · rw [if_pos (.inl types)]
  · rw [keywords, withoutKeywords, ite_self]

end Fragments

section Choices

variable {predicate : Predicate}

theorem get?_withoutTypes_typeField : predicate.withoutTypes.get? typeField = none := by
  rw [get?_withoutTypes, if_pos (.inl rfl)]

/-- A document that satisfies an alternative fulfils the predicate. -/
theorem isFulfilled_of_alternative (names : predicate.NamesShortcuts)
    (withoutKeywords : predicate.get? keywordsField = none) {alternative : Predicate}
    (member : alternative ∈ predicate.alternatives)
    (satisfied : alternative.isSatisfied now document = true) :
    predicate.IsFulfilled now document := by
  rcases (mem_alternatives_iff names).mp member with ⟨rest, given, rfl⟩ |
    ⟨fragment, inside, rfl⟩ | ⟨given, empty, rfl⟩
  · obtain ⟨others, types⟩ := (isSatisfied_insert_iff get?_withoutTypes_typeField).mp satisfied
    obtain ⟨own, constraints⟩ := exists_rest_iff.mp ⟨rest, given, types⟩
    exact ⟨isSatisfied_withoutTypes_iff.mp others, isSatisfied_constraints_iff.mp constraints,
      .inr (.inl own)⟩
  · have regular := isRegular_of_mem_fragments inside
    obtain ⟨others, fulfilled, constraints⟩ := (isSatisfied_applyFragment_iff regular
      predicate.any_constraints (get?_withoutTypes_of_mem_fragment withoutKeywords regular)).mp
        satisfied
    obtain ⟨shortcut, named, fragments, registered, inside⟩ := mem_fragments_iff.mp inside
    exact ⟨isSatisfied_withoutTypes_iff.mp others, isSatisfied_constraints_iff.mp constraints,
      .inr (.inr ⟨shortcut, named, fragments, registered, fragment, inside, fulfilled⟩)⟩
  · obtain ⟨others, constraints⟩ :=
      (isSatisfied_withConstraints_iff get?_withoutTypes_typeField).mp satisfied
    exact ⟨isSatisfied_withoutTypes_iff.mp others, isSatisfied_constraints_iff.mp constraints,
      .inl ⟨rest_eq_none_iff.mp given, fragments_eq_nil_iff.mp empty⟩⟩

/-- A document that fulfils the predicate satisfies the alternative of its choice. -/
theorem exists_alternative_of_isFulfilled (names : predicate.NamesShortcuts)
    (withoutKeywords : predicate.get? keywordsField = none)
    (fulfilled : predicate.IsFulfilled now document) :
    ∃ alternative ∈ predicate.alternatives, alternative.isSatisfied now document = true := by
  have others := isSatisfied_withoutTypes_iff.mpr fulfilled.others
  have constraints := isSatisfied_constraints_iff.mpr fulfilled.constraints
  rcases fulfilled.choice with ⟨given, unregistered⟩ | own |
    ⟨shortcut, named, fragments, registered, fragment, inside, held⟩
  · have member := (mem_alternatives_iff names).mpr (.inr (.inr ⟨rest_eq_none_iff.mpr given,
      fragments_eq_nil_iff.mpr unregistered, rfl⟩))
    exact ⟨_, member, (isSatisfied_withConstraints_iff get?_withoutTypes_typeField).mpr
      ⟨others, constraints⟩⟩
  · obtain ⟨rest, given, types⟩ := exists_rest_iff.mpr ⟨own, constraints⟩
    have member := (mem_alternatives_iff names).mpr (.inl ⟨rest, given, rfl⟩)
    exact ⟨_, member, (isSatisfied_insert_iff get?_withoutTypes_typeField).mpr ⟨others, types⟩⟩
  · have inside := mem_fragments_iff.mpr ⟨shortcut, named, fragments, registered, inside⟩
    have regular := isRegular_of_mem_fragments inside
    have member := (mem_alternatives_iff names).mpr (.inr (.inl ⟨fragment, inside, rfl⟩))
    exact ⟨_, member, (isSatisfied_applyFragment_iff regular predicate.any_constraints
      (get?_withoutTypes_of_mem_fragment withoutKeywords regular)).mpr
        ⟨others, held, constraints⟩⟩

end Choices

/-- **What shortcuts mean.** The alternatives of a predicate that names shortcuts, and asks for no
keywords and no free text, can be evaluated on every document, and a document matches one of them
exactly when it fulfils the predicate. -/
theorem matches_alternatives_iff {predicate : Predicate} (names : predicate.NamesShortcuts)
    (withoutKeywords : predicate.get? keywordsField = none)
    (evaluable : (predicate.get? termField).bind FieldCondition.asText? = none) (now : Instant)
    (document : Document) :
    (∀ alternative ∈ predicate.alternatives, ∃ outcome,
        (alternative.expand now).matches now document = .ok outcome) ∧
      ((∃ alternative ∈ predicate.alternatives,
          (alternative.expand now).matches now document = .ok true) ↔
        predicate.IsFulfilled now document) := by
  constructor
  · intro alternative member
    refine ⟨_, matches_eq_ok ?_⟩
    rw [get?_termField_of_mem_alternatives member, evaluable]
  · simp only [matches_eq_ok_true_iff, isSatisfied_expand]
    constructor
    · rintro ⟨alternative, member, satisfied⟩
      exact isFulfilled_of_alternative names withoutKeywords member satisfied
    · exact exists_alternative_of_isFulfilled names withoutKeywords

/-- Types of its own, a shortcut beside them, another by its bare name and one that is not
registered: a document with both fields of the second fragment fulfils the predicate. -/
theorem isFulfilled_storyMap :
    let predicate : Predicate := .ofEntries
      [("type", .options ⟨some (.many ["Web Map", "$storymap"]), none, some (.one "PDF"), none⟩),
        ("owner", .text "casey"), ("subFilters", .list ["datasets", "$unknown"])]
    let document : Document := .ofMembers
      [("type", .string "Web Mapping Application"), ("owner", .string "casey"),
        ("typekeywords", .array [.string "Map", .string "Story Map"])]
    predicate.NamesShortcuts ∧ predicate.get? keywordsField = none ∧
      (predicate.get? termField).bind FieldCondition.asText? = none ∧
      predicate.IsFulfilled .epoch document := by
  intro predicate document
  have names : predicate.NamesShortcuts := .inr (by decide)
  have withoutKeywords : predicate.get? keywordsField = none := by decide
  have evaluable : (predicate.get? termField).bind FieldCondition.asText? = none := by decide
  have matched : ∃ alternative ∈ predicate.alternatives,
      (alternative.expand .epoch).matches .epoch document = .ok true := by
    refine ⟨predicate.withoutTypes.applyFragment predicate.typeSelection.constraints
      [("type", ["Web Mapping Application"]), ("typekeywords", ["Story Map"])], ?_, ?_⟩
    · decide
    · rfl
  exact ⟨names, withoutKeywords, evaluable,
    (matches_alternatives_iff names withoutKeywords evaluable .epoch document).2.mp matched⟩

/-- An alternative keeps the condition on another field than those that name types, unless it is
that of a fragment with keywords and the field is that of the keywords. -/
theorem get?_of_mem_alternatives_or_keywords {predicate alternative : Predicate}
    (member : alternative ∈ predicate.alternatives) {field : String} (notTypes : field ≠ typeField)
    (notNames : field ≠ subFiltersField) : alternative.get? field = predicate.get? field ∨
      field = keywordsField ∧ ∃ fragment ∈ predicate.fragments,
        keywordsField ∈ fragment.map Prod.fst ∧ alternative =
          predicate.withoutTypes.applyFragment predicate.typeSelection.constraints fragment := by
  by_cases keywords : field = keywordsField
  · have kept : predicate.withoutTypes.get? field = predicate.get? field := by
      rw [get?_withoutTypes, if_neg (not_or.mpr ⟨notTypes, notNames⟩)]
    rcases origin_of_mem_alternatives member with rfl | ⟨rest, _, rfl⟩ | ⟨fragment, inside, rfl⟩ |
      rfl
    · exact .inl rfl
    · left
      rw [get?_insert, if_neg notTypes, kept]
    · by_cases replaced : keywordsField ∈ fragment.map Prod.fst
      · exact .inr ⟨keywords, fragment, inside, replaced, rfl⟩
      · left
        rw [get?_applyFragment_of_not_mem (isRegular_of_mem_fragments inside) (keywords ▸ replaced),
          kept]
    · left
      rw [get?_withConstraints_of_ne _ _ notTypes, kept]
  · exact .inl (get?_of_mem_alternatives member ⟨notTypes, keywords, notNames⟩)

/-- **What alternatives inherit.** A document that matches an alternative satisfies the conditions
of the predicate on other fields than those that name types. Only keywords may be replaced: by those
of a fragment of a shortcut that the predicate names, all of whose fields the document then has. -/
theorem isSatisfied_of_matches_alternative {predicate alternative : Predicate}
    (member : alternative ∈ predicate.alternatives) {now : Instant} {document : Document}
    (matched : (alternative.expand now).matches now document = .ok true) {field : String}
    {condition : FieldCondition} (held : predicate.get? field = some condition)
    (notTypes : field ≠ typeField) (notNames : field ≠ subFiltersField) :
    (alternative.get? field = some condition ∧
        condition.isSatisfied now document field = true) ∨
      field = keywordsField ∧ ∃ shortcut ∈ predicate.shortcuts, ∃ fragments,
        Shortcut.fragments? shortcut = some fragments ∧ ∃ fragment ∈ fragments,
          keywordsField ∈ fragment.map Prod.fst ∧ alternative =
            predicate.withoutTypes.applyFragment predicate.typeSelection.constraints fragment ∧
          fragment.isSatisfied now document = true := by
  rw [matches_eq_ok_true_iff, isSatisfied_expand] at matched
  rcases get?_of_mem_alternatives_or_keywords member notTypes notNames with kept |
    ⟨keywords, fragment, inside, replaced, rfl⟩
  · rw [held] at kept
    exact .inl ⟨kept, isSatisfied_iff.mp matched field condition kept⟩
  · have fulfilled := (fragment_isSatisfied (isRegular_of_mem_fragments inside)
      predicate.any_constraints matched).1
    obtain ⟨shortcut, named, fragments, registered, inside⟩ := mem_fragments_iff.mp inside
    exact .inr ⟨keywords, shortcut, named, fragments, registered, fragment, inside, replaced, rfl,
      fulfilled⟩

/-- The owner is inherited by the fragment that replaces the keywords. -/
theorem isSatisfied_owner_storyMap :
    let predicate : Predicate := .ofEntries [("type", .text "$storymap"),
      ("typekeywords", .text "Atlas"), ("owner", .text "casey")]
    let document : Document := .ofMembers [("type", .string "Web Mapping Application"),
      ("typekeywords", .string "Story Map"), ("owner", .string "casey")]
    let alternative := predicate.withoutTypes.applyFragment .empty
      [("type", ["Web Mapping Application"]), ("typekeywords", ["Story Map"])]
    alternative ∈ predicate.alternatives ∧
      (alternative.expand .epoch).matches .epoch document = .ok true ∧
      predicate.get? "owner" = some (.text "casey") ∧ "owner" ≠ typeField ∧
      "owner" ≠ subFiltersField ∧
      (FieldCondition.text "casey").isSatisfied .epoch document "owner" = true := by
  intro predicate document alternative
  have member : alternative ∈ predicate.alternatives := by decide
  have matched : (alternative.expand .epoch).matches .epoch document = .ok true := rfl
  have held : predicate.get? "owner" = some (.text "casey") := by decide
  have notTypes : "owner" ≠ typeField := by decide
  have notNames : "owner" ≠ subFiltersField := by decide
  refine ⟨member, matched, held, notTypes, notNames, ?_⟩
  rcases isSatisfied_of_matches_alternative member matched held notTypes notNames with
    ⟨_, satisfied⟩ | ⟨keywords, _⟩
  · exact satisfied
  · exact absurd keywords (by decide)

/-- The keywords of a predicate are lost where a fragment has its own. -/
theorem keywords_replaced : ¬ ∀ (predicate : Predicate) (field : String)
    (condition : FieldCondition) (now : Instant) (document : Document),
    predicate.get? field = some condition → field ≠ typeField → field ≠ subFiltersField →
      (field = termField → condition.asText? = none) →
      (∃ alternative ∈ predicate.alternatives,
        (alternative.expand now).matches now document = .ok true) →
      condition.isSatisfied now document field = true := by
  intro inherited
  have lost := inherited
    (.ofEntries [("type", .text "$storymap"), ("typekeywords", .text "Atlas")])
    keywordsField (.text "Atlas") .epoch
    (.ofMembers [("type", .string "Web Mapping Application"),
      ("typekeywords", .array [.string "Story Map"])])
    (by decide) (by decide) (by decide) (by decide)
    ⟨.ofEntries [("typekeywords", .options (.ofAny ["Story Map"])),
      ("type", .options (.ofAny ["Web Mapping Application"]))], by decide, rfl⟩
  exact absurd lost (by decide)

end Predicate

end CatalogSearch
