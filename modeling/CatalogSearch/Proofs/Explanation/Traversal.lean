import CatalogSearch.Explanation.Lookups
import Mathlib.Data.List.Forall2

/-!
# Traversals with lookups

A traversal explains its elements one after the other and stops at the first failure. Traversing a
concatenation is traversing its pieces in turn (`Lookups.forAll_append`), so a traversal of
traversals looks up and fails like a single one (`Lookups.forAll_flatMap`). Each element is
explained after the lookups of the elements before it (`Lookups.explained_of_forAll`), and the first
that fails decides the outcome (`Lookups.forAll_of_first_failure`).
-/

namespace CatalogSearch

namespace Lookups

variable {α β γ δ : Type}

/-- Two steps succeed exactly if the second does with the value of the first. -/
theorem andThen_eq_ok {first : Lookups α} {next : α → Lookups β} {value : β} :
    (first.andThen next).result = .ok value ↔
      ∃ middle, first.result = .ok middle ∧ (next middle).result = .ok value := by
  unfold andThen
  cases first.result <;> simp

/-- After a step that succeeds, the next one continues with its value. -/
theorem andThen_of_ok {first : Lookups α} {next : α → Lookups β} {value : α}
    (explained : first.result = .ok value) :
    first.andThen next = ⟨first.calls ++ (next value).calls, (next value).result⟩ := by
  rw [andThen, explained]

theorem andThen_of_error {first : Lookups α} {next : α → Lookups β} {error : QueryError}
    (failed : first.result = .error error) : first.andThen next = ⟨first.calls, .error error⟩ := by
  rw [andThen, failed]

/-- A changed result is a success exactly if the result was. -/
theorem map_eq_ok {lookups : Lookups α} {change : α → β} {value : β} :
    (lookups.map change).result = .ok value ↔
      ∃ given, lookups.result = .ok given ∧ change given = value := by
  unfold map
  cases lookups.result <;> simp [Except.map]

/-- A changed result is a failure exactly if the result was, with the same error. -/
theorem map_eq_error {lookups : Lookups α} {change : α → β} {error : QueryError} :
    (lookups.map change).result = .error error ↔ lookups.result = .error error := by
  unfold map
  cases lookups.result <;> simp [Except.map]

theorem map_map (lookups : Lookups α) (change : α → β) (further : β → γ) :
    (lookups.map change).map further = lookups.map fun value => further (change value) := by
  unfold map
  cases lookups.result <;> rfl

theorem map_self (lookups : Lookups α) : (lookups.map fun value => value) = lookups := by
  obtain ⟨calls, result⟩ := lookups
  cases result <;> rfl

/-- The result of two steps is changed in the second. -/
theorem map_andThen (lookups : Lookups α) (next : α → Lookups β) (change : β → γ) :
    (lookups.andThen next).map change = lookups.andThen fun value => (next value).map change := by
  unfold andThen
  cases lookups.result <;> rfl

section Laws

variable (explain : List String → α → Lookups β) (earlier : List String)

/-- Traversing a concatenation is traversing the one list after the other. -/
theorem forAll_append (front back : List α) :
    forAll explain earlier (front ++ back) =
      (forAll explain earlier front).andThen fun results =>
        (forAll explain (earlier ++ (forAll explain earlier front).calls) back).map
          fun others => results ++ others := by
  induction front generalizing earlier with
  | nil =>
      rw [forAll, andThen_of_ok rfl]
      simp only [done, List.append_nil, List.nil_append, map_self]
  | cons first rest ih =>
      rw [List.cons_append, forAll, forAll]
      cases explained : (explain earlier first).result with
      | error error =>
          rw [andThen_of_error explained, andThen_of_error explained, andThen_of_error rfl]
      | ok result =>
          rw [andThen_of_ok explained, andThen_of_ok explained, ih]
          cases later : (forAll explain (earlier ++ (explain earlier first).calls) rest).result with
          | error error => simp [andThen, map, later, Except.map]
          | ok others =>
              simp only [andThen, map, later, Except.map, List.append_assoc]
              cases (forAll explain (earlier ++ ((explain earlier first).calls ++
                (forAll explain (earlier ++ (explain earlier first).calls) rest).calls))
                  back).result <;> rfl

/-- A traversal whose elements are traversed in turn looks up and fails like one traversal. -/
theorem forAll_flatMap (pieces : γ → List α) (elements : List γ) :
    forAll explain earlier (elements.flatMap pieces) =
      (forAll (fun before element => forAll explain before (pieces element)) earlier
        elements).map List.flatten := by
  induction elements generalizing earlier with
  | nil => rfl
  | cons first rest ih =>
      rw [List.flatMap_cons, forAll_append, forAll, map_andThen]
      simp only [ih, map_map, List.flatten_cons]

/-- What is made of the results does not change what is looked up. -/
theorem forAll_map (change : β → γ) (elements : List α) :
    forAll (fun before element => (explain before element).map change) earlier elements =
      (forAll explain earlier elements).map (List.map change) := by
  induction elements generalizing earlier with
  | nil => rfl
  | cons first rest ih =>
      rw [forAll, forAll, map_andThen]
      cases explained : (explain earlier first).result with
      | error error => simp [andThen, map, explained, Except.map]
      | ok result =>
          rw [andThen_of_ok explained, andThen_of_ok (map_eq_ok.mpr ⟨result, explained, rfl⟩)]
          simp only [ih, map_map]
          rfl

end Laws

/-- Traversals are the same if they explain related elements in the same way. -/
theorem forAll_congr {relation : α → γ → Prop} {explain : List String → α → Lookups β}
    {other : List String → γ → Lookups β}
    (each : ∀ before ⦃element another⦄, relation element another →
      explain before element = other before another)
    {elements : List α} {others : List γ} (related : List.Forall₂ relation elements others)
    (earlier : List String) : forAll explain earlier elements = forAll other earlier others := by
  induction related generalizing earlier with
  | nil => rfl
  | cons same _ ih => rw [forAll, forAll, each earlier same, ih]

/-- Traversals are the same if they explain each element in the same way. -/
theorem forAll_congr_of_mem {explain other : List String → α → Lookups β} {elements : List α}
    (each : ∀ element ∈ elements, ∀ before, explain before element = other before element)
    (earlier : List String) : forAll explain earlier elements = forAll other earlier elements := by
  have related : List.Forall₂ (fun element another =>
      (∀ before, explain before element = other before element) ∧ element = another)
      elements elements :=
    List.forall₂_same.mpr fun element member => ⟨each element member, rfl⟩
  refine forAll_congr ?_ related earlier
  rintro before element _ ⟨same, rfl⟩
  exact same before

/-- Whether two explanations look up the same and fail alike. -/
def SameCourse (first : Lookups α) (second : Lookups β) : Prop :=
  first.calls = second.calls ∧ ∀ error, first.result = .error error ↔ second.result = .error error

theorem SameCourse.trans {first : Lookups α} {second : Lookups β} {third : Lookups γ}
    (same : first.SameCourse second) (further : second.SameCourse third) :
    first.SameCourse third :=
  ⟨same.1.trans further.1, fun error => (same.2 error).trans (further.2 error)⟩

theorem SameCourse.symm {first : Lookups α} {second : Lookups β} (same : first.SameCourse second) :
    second.SameCourse first :=
  ⟨same.1.symm, fun error => (same.2 error).symm⟩

theorem SameCourse.map (lookups : Lookups α) (change : α → β) :
    (lookups.map change).SameCourse lookups :=
  ⟨rfl, fun _ => map_eq_error⟩

/-- Explanations of the same course both have results or both have none. -/
theorem SameCourse.exists_ok_iff {first : Lookups α} {second : Lookups β}
    (same : first.SameCourse second) :
    (∃ value, first.result = .ok value) ↔ ∃ value, second.result = .ok value := by
  have failure := same.2
  cases explained : first.result <;> cases other : second.result <;> simp_all

/-- A traversal whose elements are put together from traversals of their pieces takes the course of
the traversal of all pieces. -/
theorem sameCourse_forAll {explain : List String → α → Lookups β}
    {inner : List String → γ → Lookups δ} {pieces : α → List γ} {assemble : α → List δ → β}
    (parts : ∀ before element,
      explain before element = (forAll inner before (pieces element)).map (assemble element))
    (earlier : List String) (elements : List α) :
    (forAll explain earlier elements).SameCourse
      (forAll inner earlier (elements.flatMap pieces)) := by
  have ignored : (fun before element => (explain before element).map fun _ => ()) =
      fun before element => (forAll inner before (pieces element)).map fun _ => () := by
    funext before element
    rw [parts, map_map]
  have same : (forAll explain earlier elements).map (List.map fun _ => ()) =
      (forAll (fun before element => forAll inner before (pieces element)) earlier elements).map
        (List.map fun _ => ()) := by
    rw [← forAll_map, ignored, forAll_map]
  rw [forAll_flatMap]
  refine .trans ?_ (SameCourse.map _ _).symm
  exact (same ▸ (SameCourse.map _ _).symm).trans (SameCourse.map _ _)

/-- A traversal succeeds exactly if its first element does and, after it, the rest. -/
theorem forAll_cons_eq_ok {explain : List String → α → Lookups β} {earlier : List String}
    {first : α} {rest : List α} {results : List β} :
    (forAll explain earlier (first :: rest)).result = .ok results ↔
      ∃ result others, (explain earlier first).result = .ok result ∧
        (forAll explain (earlier ++ (explain earlier first).calls) rest).result = .ok others ∧
          results = result :: others := by
  simp only [forAll, andThen_eq_ok, map_eq_ok]
  constructor
  · rintro ⟨result, explained, others, later, rfl⟩
    exact ⟨result, others, explained, later, rfl⟩
  · rintro ⟨result, others, explained, later, rfl⟩
    exact ⟨result, explained, others, later, rfl⟩

section Traversal

variable {explain : List String → α → Lookups β} {earlier : List String} {elements : List α}
  {results : List β}

/-- When there are results, every element has one. -/
theorem exists_of_forAll (explained : (forAll explain earlier elements).result = .ok results) :
    ∀ element ∈ elements, ∃ before result, (explain before element).result = .ok result := by
  induction elements generalizing earlier results with
  | nil => exact fun _ member => absurd member List.not_mem_nil
  | cons first rest ih =>
      obtain ⟨result, others, now, later, _⟩ := forAll_cons_eq_ok.mp explained
      intro element member
      rcases List.mem_cons.mp member with same | member
      · exact ⟨earlier, result, same ▸ now⟩
      · exact ih later element member

/-- Every result is that of an element. -/
theorem exists_element_of_forAll
    (explained : (forAll explain earlier elements).result = .ok results) :
    ∀ result ∈ results, ∃ before, ∃ element ∈ elements,
      (explain before element).result = .ok result := by
  induction elements generalizing earlier results with
  | nil =>
      cases explained
      exact fun _ member => absurd member List.not_mem_nil
  | cons first rest ih =>
      obtain ⟨own, others, now, later, rfl⟩ := forAll_cons_eq_ok.mp explained
      intro result member
      rcases List.mem_cons.mp member with rfl | member
      · exact ⟨earlier, first, List.mem_cons_self, now⟩
      · obtain ⟨before, element, inside, outcome⟩ := ih later result member
        exact ⟨before, element, List.mem_cons_of_mem first inside, outcome⟩

/-- What holds of the result of every element holds of the results in order. -/
theorem map_eq_of_forAll {measure : β → γ} {outcome : α → γ}
    (explained : (forAll explain earlier elements).result = .ok results)
    (each : ∀ element ∈ elements, ∀ before result, (explain before element).result = .ok result →
      measure result = outcome element) : results.map measure = elements.map outcome := by
  induction elements generalizing earlier results with
  | nil =>
      cases explained
      rfl
  | cons first rest ih =>
      obtain ⟨result, others, now, later, rfl⟩ := forAll_cons_eq_ok.mp explained
      rw [List.map_cons, List.map_cons, each first List.mem_cons_self earlier result now,
        ih later fun element member => each element (List.mem_cons_of_mem _ member)]

/-- A traversal measures like its elements if each of them does. -/
theorem all_eq_of_forAll {measure : β → Bool} {outcome : α → Bool}
    (explained : (forAll explain earlier elements).result = .ok results)
    (each : ∀ element ∈ elements, ∀ before result, (explain before element).result = .ok result →
      measure result = outcome element) : results.all measure = elements.all outcome := by
  have all := congrArg (fun outcomes => outcomes.all id) (map_eq_of_forAll explained each)
  simpa only [List.all_map, Function.id_comp] using all

/-- The results are related to the elements one by one if each is. -/
theorem forall₂_of_forAll {relation : α → β → Prop}
    (explained : (forAll explain earlier elements).result = .ok results)
    (each : ∀ element ∈ elements, ∀ before result, (explain before element).result = .ok result →
      relation element result) : List.Forall₂ relation elements results := by
  induction elements generalizing earlier results with
  | nil =>
      cases explained
      exact .nil
  | cons first rest ih =>
      obtain ⟨result, others, now, later, rfl⟩ := forAll_cons_eq_ok.mp explained
      exact .cons (each first List.mem_cons_self earlier result now)
        (ih later fun element member => each element (List.mem_cons_of_mem _ member))

section Calls

variable {asked : α → List String}

/-- A traversal with results has looked up what its elements ask for. -/
theorem calls_of_forAll
    (each : ∀ element before result, (explain before element).result = .ok result →
      (explain before element).calls = asked element)
    (explained : (forAll explain earlier elements).result = .ok results) :
    (forAll explain earlier elements).calls = elements.flatMap asked := by
  induction elements generalizing earlier results with
  | nil => rfl
  | cons first rest ih =>
      obtain ⟨result, others, now, later, _⟩ := forAll_cons_eq_ok.mp explained
      rw [forAll, andThen_of_ok now, List.flatMap_cons, ← ih later, each first earlier result now]
      rfl

/-- Before an element stand the lookups of the first one and those of the elements between. -/
theorem before_succ {first : α} (known : (explain earlier first).calls = asked first)
    (rest : List α) (position : Nat) :
    earlier ++ ((first :: rest).take (position + 1)).flatMap asked =
      earlier ++ (explain earlier first).calls ++ (rest.take position).flatMap asked := by
  rw [List.take_succ_cons, List.flatMap_cons, known, List.append_assoc]

/-- Every result is that of its element after the lookups of the elements before it. -/
theorem explained_of_forAll
    (each : ∀ element before result, (explain before element).result = .ok result →
      (explain before element).calls = asked element)
    (explained : (forAll explain earlier elements).result = .ok results)
    {position : Nat} {result : β} (found : results[position]? = some result) :
    ∃ element, elements[position]? = some element ∧
      (explain (earlier ++ (elements.take position).flatMap asked) element).result =
        .ok result := by
  induction elements generalizing earlier results position with
  | nil =>
      cases explained
      cases found
  | cons first rest ih =>
      obtain ⟨own, others, now, later, rfl⟩ := forAll_cons_eq_ok.mp explained
      cases position with
      | zero =>
          obtain rfl := Option.some.inj found
          exact ⟨first, rfl, by simpa using now⟩
      | succ position =>
          obtain ⟨element, inside, outcome⟩ := ih later found
          exact ⟨element, inside, by rwa [before_succ (each first earlier own now)]⟩

/-- A traversal has results if every element has one after the lookups of those before it. -/
theorem exists_results_of_forall (each : ∀ element before, (explain before element).calls =
      asked element)
    (clear : ∀ position element, elements[position]? = some element → ∃ result,
      (explain (earlier ++ (elements.take position).flatMap asked) element).result = .ok result) :
    ∃ results, (forAll explain earlier elements).result = .ok results := by
  induction elements generalizing earlier with
  | nil => exact ⟨[], rfl⟩
  | cons first rest ih =>
      obtain ⟨result, now⟩ := clear 0 first rfl
      rw [List.take_zero, List.flatMap_nil, List.append_nil] at now
      obtain ⟨others, later⟩ := @ih (earlier ++ (explain earlier first).calls)
        fun position element inside => by
          rw [← before_succ (each first earlier)]
          exact clear (position + 1) element inside
      exact ⟨result :: others, forAll_cons_eq_ok.mpr ⟨result, others, now, later, rfl⟩⟩

/-- The first element that fails decides the outcome, after the lookups up to it. -/
theorem forAll_of_first_failure (each : ∀ element before, (explain before element).calls =
      asked element)
    {position : Nat} {element : α} (found : elements[position]? = some element)
    {error : QueryError}
    (failed : (explain (earlier ++ (elements.take position).flatMap asked) element).result =
      .error error)
    (clear : ∀ before < position, ∀ other, elements[before]? = some other → ∃ result,
      (explain (earlier ++ (elements.take before).flatMap asked) other).result = .ok result) :
    forAll explain earlier elements =
      ⟨(elements.take (position + 1)).flatMap asked, .error error⟩ := by
  induction elements generalizing earlier position with
  | nil => cases found
  | cons first rest ih =>
      cases position with
      | zero =>
          obtain rfl := Option.some.inj found
          rw [List.take_zero, List.flatMap_nil, List.append_nil] at failed
          rw [forAll, andThen_of_error failed, each]
          simp
      | succ position =>
          obtain ⟨result, now⟩ := clear 0 (Nat.succ_pos position) first rfl
          rw [List.take_zero, List.flatMap_nil, List.append_nil] at now
          rw [before_succ (each first earlier)] at failed
          rw [forAll, andThen_of_ok now, ih found failed]
          · rw [List.take_succ_cons, List.flatMap_cons, each]
            rfl
          · intro before smaller other inside
            rw [← before_succ (each first earlier)]
            exact clear (before + 1) (Nat.succ_lt_succ smaller) other inside

end Calls

end Traversal

end Lookups

end CatalogSearch
