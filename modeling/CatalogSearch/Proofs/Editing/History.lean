import CatalogSearch.Editing.Predicate
import CatalogSearch.Proofs.Expansion.Fields

/-!
# Predicates and their history

Every step of editing a predicate comes down to events of four kinds (`PredicateEdit.apply_snd`).
What a field holds, and since when it has been present, can be read off the events without the
predicate: its condition is the one that it was given last, and its place is that of its last
appearance (`Predicate.Reflects.apply`). So after any steps a predicate is the ordered map that its
history tells of (`PredicateEdit.reflects_run`).
-/

namespace CatalogSearch

/-- Something that happens to the fields of a predicate. -/
inductive FieldEvent where
  | given (field : String) (condition : FieldCondition)
  | removed (field : String)
  | cleared
  | expanded (now : Instant)

namespace FieldEvent

/-- What an event does to a predicate. -/
def apply (predicate : Predicate) : FieldEvent → Predicate
  | .given field condition => predicate.insert field condition
  | .removed field => predicate.erase field
  | .cleared => .empty
  | .expanded now => predicate.expand now

/-- The condition that a field was given last, unless it was removed since, and expanded as often as
expansion came after. The latest event stands first. -/
def latest? (field : String) : List FieldEvent → Option FieldCondition
  | [] => none
  | .given name condition :: earlier =>
      if field = name then some condition else latest? field earlier
  | .removed name :: earlier => if field = name then none else latest? field earlier
  | .cleared :: _ => none
  | .expanded now :: earlier =>
      (latest? field earlier).map fun condition => condition.expand now field

/-- Whether an event decides by itself what a field holds. -/
def Settles (field : String) : FieldEvent → Prop
  | .given name _ => field = name
  | .removed name => field = name
  | .cleared => True
  | .expanded _ => False

/-- The condition of a field after the expansions among some events, the latest first. -/
def expandedBy (field : String) (events : List FieldEvent) (condition : FieldCondition) :
    FieldCondition :=
  events.foldr (fun event condition =>
    match event with
    | .expanded now => condition.expand now field
    | _ => condition) condition

/-- The number of events before the one by which a field last became present, if it is present. The
latest event stands first. -/
def presentSince? (field : String) : List FieldEvent → Option Nat
  | [] => none
  | .given name _ :: earlier =>
      if field = name then some ((presentSince? field earlier).getD earlier.length)
      else presentSince? field earlier
  | .removed name :: earlier => if field = name then none else presentSince? field earlier
  | .cleared :: _ => none
  | .expanded _ :: earlier => presentSince? field earlier

/-- Whether the one field became present before the other, and both are still. -/
def Precedes (history : List FieldEvent) (first second : String) : Prop :=
  ∃ early late, presentSince? first history = some early ∧
    presentSince? second history = some late ∧ early < late

end FieldEvent

/-- Whether a predicate is the ordered map that a history tells of, the latest event first. -/
structure Predicate.Reflects (predicate : Predicate) (history : List FieldEvent) : Prop where
  distinct : predicate.fields.Nodup
  held : ∀ field, predicate.get? field = FieldEvent.latest? field history
  order : predicate.fields.Pairwise (FieldEvent.Precedes history)

namespace FieldEvent

section Presence

variable {field : String} {history : List FieldEvent}

/-- Events that settle nothing leave a field what it was given, with their expansions. -/
theorem latest?_append {later : List FieldEvent} (unsettled : ∀ event ∈ later, ¬event.Settles field)
    (condition : FieldCondition) (earlier : List FieldEvent) :
    latest? field (later ++ .given field condition :: earlier) =
      some (expandedBy field later condition) := by
  induction later with
  | nil => exact if_pos rfl
  | cons event rest ih =>
      have ⟨other, others⟩ := List.forall_mem_cons.mp unsettled
      have before := ih others
      rw [List.cons_append]
      cases event with
      | given name _ => exact (if_neg other).trans before
      | removed name => exact (if_neg other).trans before
      | cleared => exact absurd trivial other
      | expanded now => rw [latest?, before]; rfl

/-- A field that holds a condition was given one, after which nothing settled it anew. -/
theorem exists_given_of_latest? {condition : FieldCondition}
    (held : latest? field history = some condition) :
    ∃ later original earlier, history = later ++ .given field original :: earlier ∧
      (∀ event ∈ later, ¬event.Settles field) ∧ expandedBy field later original = condition := by
  induction history generalizing condition with
  | nil => cases held
  | cons event before ih =>
      -- An event that does not settle the field is one of the later ones.
      have further (other : ¬event.Settles field) {former : FieldCondition}
          (held : latest? field before = some former) :
          ∃ later original earlier, event :: before = later ++ .given field original :: earlier ∧
            (∀ event ∈ later, ¬event.Settles field) ∧
              expandedBy field later original = expandedBy field [event] former := by
        obtain ⟨later, original, earlier, rfl, others, rfl⟩ := ih held
        exact ⟨event :: later, original, earlier, rfl, List.forall_mem_cons.mpr ⟨other, others⟩,
          rfl⟩
      cases event with
      | given name given =>
          rw [latest?] at held
          split at held
          · rename_i same
            subst same
            obtain rfl := Option.some.inj held
            exact ⟨[], given, before, rfl, fun _ none => absurd none List.not_mem_nil, rfl⟩
          · rename_i other
            exact further other held
      | removed name =>
          rw [latest?] at held
          split at held
          · cases held
          · rename_i other
            exact further other held
      | cleared => cases held
      | expanded now =>
          obtain ⟨former, formerly, rfl⟩ := Option.map_eq_some_iff.mp held
          exact further not_false formerly

/-- A field holds what it was given by an event after which none settled it, with the expansions
since. -/
theorem latest?_eq_some_iff {condition : FieldCondition} :
    latest? field history = some condition ↔
      ∃ later original earlier, history = later ++ .given field original :: earlier ∧
        (∀ event ∈ later, ¬event.Settles field) ∧ expandedBy field later original = condition := by
  refine ⟨exists_given_of_latest?, ?_⟩
  rintro ⟨later, original, earlier, rfl, others, rfl⟩
  exact latest?_append others original earlier

/-- A field is present exactly if it holds a condition. -/
theorem isSome_presentSince? (field : String) (history : List FieldEvent) :
    (presentSince? field history).isSome = (latest? field history).isSome := by
  induction history with
  | nil => rfl
  | cons event earlier ih =>
      cases event with
      | given name condition =>
          rw [presentSince?, latest?]
          split
          · rfl
          · exact ih
      | removed name =>
          rw [presentSince?, latest?]
          split
          · rfl
          · exact ih
      | cleared => rfl
      | expanded now => rw [presentSince?, latest?, ih, Option.isSome_map]

/-- A field became present by an event of the history. -/
theorem lt_length_of_presentSince? {since : Nat}
    (present : presentSince? field history = some since) : since < history.length := by
  induction history generalizing since with
  | nil => cases present
  | cons event earlier ih =>
      rw [List.length_cons]
      cases event with
      | given name condition =>
          rw [presentSince?] at present
          split at present
          · obtain rfl := Option.some.inj present
            cases before : presentSince? field earlier with
            | none => exact Nat.lt_succ_self _
            | some since => exact Nat.lt_succ_of_lt (ih before)
          · exact Nat.lt_succ_of_lt (ih present)
      | removed name =>
          rw [presentSince?] at present
          split at present
          · cases present
          · exact Nat.lt_succ_of_lt (ih present)
      | cleared => cases present
      | expanded now => exact Nat.lt_succ_of_lt (ih present)

/-- A field that is present stays so since the same event when one is given a condition. -/
theorem presentSince?_given {since : Nat} (present : presentSince? field history = some since)
    (name : String) (condition : FieldCondition) :
    presentSince? field (.given name condition :: history) = some since := by
  rw [presentSince?]
  split
  · rw [present, Option.getD_some]
  · exact present

/-- Giving a field a condition keeps the order of the fields that are there. -/
theorem Precedes.given {first second : String} (precedes : Precedes history first second)
    (name : String) (condition : FieldCondition) :
    Precedes (.given name condition :: history) first second := by
  obtain ⟨early, late, before, after, less⟩ := precedes
  exact ⟨early, late, presentSince?_given before name condition,
    presentSince?_given after name condition, less⟩

/-- Removing a field keeps the order of the others. -/
theorem Precedes.removed {first second name : String} (precedes : Precedes history first second)
    (other : first ≠ name) (another : second ≠ name) :
    Precedes (.removed name :: history) first second := by
  obtain ⟨early, late, before, after, less⟩ := precedes
  refine ⟨early, late, ?_, ?_, less⟩
  · rwa [presentSince?, if_neg other]
  · rwa [presentSince?, if_neg another]

end Presence

end FieldEvent

namespace Predicate.Reflects

open FieldEvent

variable {predicate : Predicate} {history : List FieldEvent}

/-- A cleared predicate is what its history tells of. -/
theorem cleared (history : List FieldEvent) : empty.Reflects (.cleared :: history) where
  distinct := .nil
  held _ := rfl
  order := .nil

variable (reflects : predicate.Reflects history)

include reflects

/-- The fields of a predicate are those that its history tells of. -/
theorem mem_fields_iff {field : String} :
    field ∈ predicate.fields ↔ ∃ since, presentSince? field history = some since := by
  rw [Predicate.mem_fields_iff, reflects.held, ← Option.isSome_iff_exists,
    ← Option.isSome_iff_exists, isSome_presentSince?]

/-- A field that is given a condition keeps its place, or comes last if it was absent. -/
theorem insert (name : String) (condition : FieldCondition) :
    (predicate.insert name condition).Reflects (.given name condition :: history) where
  distinct := (predicate.insert name condition).distinct
  held field := by rw [get?_insert, latest?, reflects.held]
  order := by
    have kept := reflects.order.imp fun precedes => precedes.given name condition
    rw [fields_insert]
    split
    · exact kept
    · rename_i absent
      refine List.pairwise_append.mpr ⟨kept, List.pairwise_singleton _ name, ?_⟩
      intro field member other last
      obtain rfl := List.mem_singleton.mp last
      obtain ⟨since, present⟩ := reflects.mem_fields_iff.mp member
      have fresh : presentSince? other history = none :=
        Option.eq_none_iff_forall_ne_some.mpr fun since present =>
          absent (reflects.mem_fields_iff.mpr ⟨since, present⟩)
      refine ⟨since, history.length, presentSince?_given present other condition, ?_,
        lt_length_of_presentSince? present⟩
      rw [presentSince?, if_pos rfl, fresh, Option.getD_none]

/-- Removing a field keeps a predicate what its history tells of. -/
theorem erase (name : String) : (predicate.erase name).Reflects (.removed name :: history) where
  distinct := (predicate.erase name).distinct
  held field := by rw [get?_erase, latest?, reflects.held]
  order := by
    have other {field : String} (member : field ∈ (predicate.erase name).fields) :
        field ≠ name := by
      rintro rfl
      obtain ⟨condition, held⟩ := Predicate.mem_fields_iff.mp member
      rw [get?_erase, if_pos rfl] at held
      cases held
    have kept : (predicate.erase name).fields.Sublist predicate.fields :=
      FieldEntries.names_unset_sublist name predicate.entries
    refine (reflects.order.sublist kept).imp_of_mem fun first second precedes => ?_
    exact precedes.removed (other first) (other second)

/-- Expanding keeps a predicate what its history tells of. -/
theorem expand (now : Instant) : (predicate.expand now).Reflects (.expanded now :: history) where
  distinct := (predicate.expand now).distinct
  held field := by rw [get?_expand, latest?, reflects.held]
  order := by
    rw [fields_expand]
    exact reflects.order

/-- After one more event, a predicate is what the longer history tells of. -/
theorem apply (event : FieldEvent) : (event.apply predicate).Reflects (event :: history) := by
  cases event with
  | given field condition => exact reflects.insert field condition
  | removed field => exact reflects.erase field
  | cleared => exact .cleared history
  | expanded now => exact reflects.expand now

/-- Any events keep a predicate what its history tells of. -/
theorem foldl (events : List FieldEvent) :
    (events.foldl FieldEvent.apply predicate).Reflects (events.reverse ++ history) := by
  induction events generalizing predicate history with
  | nil => exact reflects
  | cons event rest ih =>
      rw [List.reverse_cons, List.append_assoc]
      exact ih (reflects.apply event)

end Predicate.Reflects

/-- Giving fields conditions one by one is setting all the entries. -/
theorem FieldEvent.foldl_given (predicate : Predicate) (entries : FieldEntries) :
    (entries.map fun entry => given entry.1 entry.2).foldl apply predicate =
      predicate.insertAll entries := by
  rw [List.foldl_map]
  rfl

namespace PredicateEdit

/-- The entries of the object that a text denotes, if all its values denote conditions. -/
def readEntries? (text : String) : Option FieldEntries :=
  match Json.parse? text with
  | some (.object members) => (Predicate.decodeMembers members).toOption
  | _ => none

/-- What a step of editing does to the fields. A text that is refused does nothing. -/
def events : PredicateEdit → List FieldEvent
  | .insert field condition => [.given field condition]
  | .set field condition => [.given field condition]
  | .remove field => [.removed field]
  | .parse text =>
      match readEntries? text with
      | some entries => .cleared :: entries.map fun entry => .given entry.1 entry.2
      | none => []
  | .collect entries => entries.map fun entry => .given entry.1 entry.2
  | .expand now => [.expanded now]

/-- The events of some steps, the latest first. -/
def history (edits : List PredicateEdit) : List FieldEvent :=
  (edits.flatMap events).reverse

/-- A text is read as the predicate of its entries, the last of two for one field counting. -/
theorem toOption_parse (text : String) :
    (Predicate.parse text).toOption = (readEntries? text).map Predicate.ofEntries := by
  unfold Predicate.parse readEntries?
  cases Json.parse? text with
  | none => rfl
  | some json =>
      cases json with
      | object members =>
          dsimp only [Predicate.decode]
          cases Predicate.decodeMembers members <;> rfl
      | _ => rfl

/-- Reading a text replaces the predicate, or leaves it if the text is refused. -/
theorem apply_parse (predicate : Predicate) (text : String) :
    (apply predicate (.parse text)).2 = (Predicate.parse text).toOption.getD predicate := by
  rw [apply]
  cases Predicate.parse text <;> rfl

/-- Collecting the entries of a predicate and others sets the others. -/
theorem ofEntries_append (predicate : Predicate) (entries : FieldEntries) :
    Predicate.ofEntries (predicate.entries ++ entries) = predicate.insertAll entries :=
  calc Predicate.ofEntries (predicate.entries ++ entries)
      = (Predicate.ofEntries predicate.entries).insertAll entries := List.foldl_append
    _ = predicate.insertAll entries := by rw [Predicate.ofEntries_entries]

/-- A step of editing is made of its events. -/
theorem apply_snd (predicate : Predicate) (edit : PredicateEdit) :
    (apply predicate edit).2 = edit.events.foldl FieldEvent.apply predicate := by
  cases edit with
  | insert field condition => rfl
  | set field condition => rfl
  | remove field => rfl
  | parse text =>
      rw [apply_parse, toOption_parse, events]
      cases readEntries? text with
      | none => rfl
      | some entries => exact (FieldEvent.foldl_given .empty entries).symm
  | collect entries =>
      exact (ofEntries_append predicate entries).trans
        (FieldEvent.foldl_given predicate entries).symm
  | expand now => rfl

/-- A run of edits comes down to the events of all. -/
theorem run_eq_foldl (predicate : Predicate) (edits : List PredicateEdit) :
    run predicate edits = (edits.flatMap events).foldl FieldEvent.apply predicate := by
  induction edits generalizing predicate with
  | nil => rfl
  | cons edit rest ih =>
      rw [List.flatMap_cons, List.foldl_append, ← apply_snd]
      exact ih (apply predicate edit).2

/-- After any steps, a predicate is what their events tell of. -/
theorem reflects_history (edits : List PredicateEdit) :
    (run .empty edits).Reflects (history edits) := by
  have initial : Predicate.empty.Reflects [] := ⟨.nil, fun _ => rfl, .nil⟩
  have whole := initial.foldl (edits.flatMap events)
  rwa [← run_eq_foldl, List.append_nil] at whole

/-- A field holds what it was given by an event after which nothing settled it anew, with the
expansions since. -/
theorem get?_run_eq_some_iff {edits : List PredicateEdit} {field : String}
    {condition : FieldCondition} : (run .empty edits).get? field = some condition ↔
      ∃ later original earlier, history edits = later ++ .given field original :: earlier ∧
        (∀ event ∈ later, ¬event.Settles field) ∧
          FieldEvent.expandedBy field later original = condition := by
  rw [(reflects_history edits).held, FieldEvent.latest?_eq_some_iff]

/-- Whether the steps of editing a predicate return what its fields held before, and a refused one
changes nothing. -/
structure Answers (predicate : Predicate) : Prop where
  inserted : ∀ field condition,
    (apply predicate (.insert field condition)).1 = .previous (predicate.get? field)
  removed : ∀ field, (apply predicate (.remove field)).1 = .previous (predicate.get? field)
  refused : ∀ text cause, (apply predicate (.parse text)).1 = .refused cause →
    (apply predicate (.parse text)).2 = predicate

/-- Every step returns what it should. -/
theorem answers (predicate : Predicate) : Answers predicate where
  inserted field condition :=
    congrArg PredicateOutcome.previous (predicate.replace_fst field condition)
  removed field := congrArg PredicateOutcome.previous (predicate.remove_fst field)
  refused text cause refused := by
    rw [apply_parse]
    rw [apply] at refused
    cases read : Predicate.parse text with
    | error _ => rfl
    | ok parsed =>
        rw [read] at refused
        cases refused

/-- **A predicate is an ordered map.** After any steps of editing from the empty predicate, its
fields are different and stand in the order in which each became present last, and each holds the
condition that it was given last, expanded as often as expansion came after. Setting and removing a
field return the condition it had, and a text that is refused leaves no trace. -/
theorem reflects_run (edits : List PredicateEdit) :
    (run .empty edits).Reflects (history edits) ∧ Answers (run .empty edits) :=
  ⟨reflects_history edits, answers (run .empty edits)⟩

/-- A field that is set again keeps its place, and one that is removed in between does not. -/
example :
    let edits : List PredicateEdit := [.set "type" (.flag true), .set "id" (.text "a"),
      .remove "type", .collect [("type", .text "CSV"), ("id", .text "b"), ("type", .text "PDF")]]
    (run .empty edits).entries = [("id", .text "b"), ("type", .text "PDF")] := by
  decide

end PredicateEdit

end CatalogSearch
