import CatalogSearch.Proofs.Json.Reading
import Mathlib.Data.List.Basic

/-!
# The grammar of values

A text is written for a value if it spells the tokens of the value (`Json.IsWrittenAs`). The reader
keeps, with the values that are still open, all the tokens that it has taken
(`Json.Reader.Took`), so that what it reads has just these tokens. Hence a text denotes a value
exactly if it is written for the value and no more than 127 arrays and objects lie within each other
(`Json.parse?_eq_some_iff`).
-/

namespace CatalogSearch

namespace Json

/-- The tokens of items that have all been read, each with the comma behind it. -/
def itemsAhead (items : List Json) : List Token :=
  items.flatMap fun item => item.tokens ++ [.comma]

/-- The tokens of a member in front of its value. -/
def keyTokens (key : String) : List Token :=
  [.string key, .colon]

/-- The tokens of members that have all been read, each with the comma behind it. -/
def membersAhead (members : List (String × Json)) : List Token :=
  members.flatMap fun (key, value) => keyTokens key ++ value.tokens ++ [.comma]

/-- The last item has no comma behind it. -/
theorem itemTokens_append_singleton (items : List Json) (last : Json) :
    itemTokens (items ++ [last]) = itemsAhead items ++ last.tokens := by
  induction items with
  | nil => rfl
  | cons item rest ih =>
      have content : rest ++ [last] ≠ [] := List.append_ne_nil_of_right_ne_nil rest nofun
      rw [List.cons_append, itemTokens.eq_3 _ _ content, ih]
      simp [itemsAhead]

/-- The last member has no comma behind it. -/
theorem memberTokens_append_singleton (members : List (String × Json)) (key : String)
    (value : Json) : memberTokens (members ++ [(key, value)]) =
      membersAhead members ++ keyTokens key ++ value.tokens := by
  induction members with
  | nil => rfl
  | cons member rest ih =>
      have content : rest ++ [(key, value)] ≠ [] := List.append_ne_nil_of_right_ne_nil rest nofun
      rw [List.cons_append, memberTokens.eq_3 _ _ _ content, ih]
      simp [membersAhead, keyTokens]

namespace Reader

variable {limit : Nat}

/-- Which tokens have been taken since the outermost of some frames was opened, each within the
limit. What a frame holds in reverse lies one level deeper than the frame. -/
inductive Opened (limit : Nat) : List Frame → List Token → Prop where
  | nil : Opened limit [] []
  | array {outer : List Frame} {taken : List Token} {items : List Json}
      (opened : Opened limit outer taken) (room : outer.length < limit)
      (fit : ∀ item ∈ items, outer.length + item.depth < limit) :
      Opened limit (.array items :: outer) (taken ++ .openArray :: itemsAhead items.reverse)
  | object {outer : List Frame} {taken : List Token} {members : List (String × Json)} {key : String}
      (opened : Opened limit outer taken) (room : outer.length < limit)
      (fit : ∀ member ∈ members, outer.length + member.2.depth < limit) :
      Opened limit (.object (some members) (some key) :: outer)
        (taken ++ .openObject :: membersAhead members.reverse ++ keyTokens key)

/-- Which tokens a reader has taken. Of an object whose next key is still to come there is no frame
yet. -/
inductive Took (limit : Nat) : Reader → List Token → Prop where
  | value {frames : List Frame} {taken : List Token} (opened : Opened limit frames taken) :
      Took limit ⟨frames, .value⟩ taken
  | itemOrClose {frames : List Frame} {taken : List Token} (opened : Opened limit frames taken)
      (room : frames.length < limit) : Took limit ⟨frames, .itemOrClose⟩ (taken ++ [.openArray])
  | keyOrClose {frames : List Frame} {taken : List Token} (opened : Opened limit frames taken)
      (room : frames.length < limit) : Took limit ⟨frames, .keyOrClose⟩ (taken ++ [.openObject])
  | key {frames : List Frame} {taken : List Token} {members : List (String × Json)}
      (opened : Opened limit frames taken) (room : frames.length < limit)
      (fit : ∀ member ∈ members, frames.length + member.2.depth < limit) :
      Took limit ⟨frames, .key (some members)⟩
        (taken ++ .openObject :: membersAhead members.reverse)
  | colon {frames : List Frame} {taken : List Token} {members : List (String × Json)} {key : String}
      (opened : Opened limit frames taken) (room : frames.length < limit)
      (fit : ∀ member ∈ members, frames.length + member.2.depth < limit) :
      Took limit ⟨frames, .colon (some members) (some key)⟩
        (taken ++ .openObject :: membersAhead members.reverse ++ [.string key])
  | separator {frames : List Frame} {taken : List Token} {json : Json}
      (opened : Opened limit frames taken) (fit : frames.length + json.depth ≤ limit) :
      Took limit ⟨frames, .separator json⟩ (taken ++ json.tokens)

section Step

variable {frames : List Frame} {taken : List Token} {token : Token} {next : Reader}

/-- No more frames are open than the limit allows. -/
theorem Opened.length_le (opened : Opened limit frames taken) : frames.length ≤ limit := by
  cases opened with
  | nil => exact Nat.zero_le limit
  | array _ room _ | object _ room _ => exact room

/-- A value of a single token may follow. -/
theorem Opened.single (opened : Opened limit frames taken) {json : Json} (flat : json.depth = 0)
    (single : json.tokens = [token]) : Took limit ⟨frames, .separator json⟩ (taken ++ [token]) := by
  rw [← single]
  exact .separator opened (by rw [flat]; exact opened.length_le)

/-- The first token of a value is added to those that have been taken. -/
theorem Opened.begin (opened : Opened limit frames taken)
    (step : beginValue? limit frames (.token token) = some next) :
    Took limit next (taken ++ [token]) := by
  cases token <;> simp only [beginValue?, complete, Option.some.injEq, reduceCtorEq] at step
  case openArray =>
    obtain ⟨room, same⟩ := Option.ite_none_right_eq_some.mp step
    cases same
    exact .itemOrClose opened room
  case openObject =>
    obtain ⟨room, same⟩ := Option.ite_none_right_eq_some.mp step
    cases same
    exact .keyOrClose opened room
  all_goals
    subst step
    exact opened.single rfl rfl

/-- The key of a member is added to the tokens that have been taken. -/
theorem Opened.beginMember (opened : Opened limit frames taken) (room : frames.length < limit)
    {members : List (String × Json)}
    (fit : ∀ member ∈ members, frames.length + member.2.depth < limit)
    (step : beginMember? frames (some members) (.token token) = some next) :
    Took limit next (taken ++ .openObject :: membersAhead members.reverse ++ [token]) := by
  cases token <;> cases step
  exact .colon opened room fit

/-- A comma or a closing bracket behind a value is added to the tokens that have been taken. -/
theorem Opened.endValue (opened : Opened limit frames taken) {json : Json}
    (fit : frames.length + json.depth ≤ limit)
    (step : endValue? frames json (.token token) = some next) :
    Took limit next (taken ++ json.tokens ++ [token]) := by
  cases opened with
  | nil => cases step
  | @array outer taken items opened room fits =>
      rw [List.length_cons] at fit
      have inside : ∀ item ∈ json :: items, outer.length + item.depth < limit :=
        List.forall_mem_cons.mpr ⟨by omega, fits⟩
      cases token <;> cases step
      case array.comma.refl =>
        have took := Took.value (.array opened room inside)
        simpa [itemsAhead] using took
      case array.closeArray.refl =>
        have took := Took.separator opened (depth_array_le room fun item member =>
          inside item (List.mem_reverse.mp member))
        rw [Json.tokens, List.reverse_cons, itemTokens_append_singleton] at took
        simpa using took
  | @object outer taken members key opened room fits =>
      rw [List.length_cons] at fit
      have inside : ∀ member ∈ (key, json) :: members, outer.length + member.2.depth < limit :=
        List.forall_mem_cons.mpr ⟨by show outer.length + json.depth < limit; omega, fits⟩
      cases token <;> cases step
      case object.comma.refl =>
        have took := Took.key opened room inside
        simpa [membersAhead, addMember] using took
      case object.closeObject.refl =>
        have took := Took.separator opened (depth_object_le room fun member held =>
          inside member (List.mem_reverse.mp held))
        rw [Json.tokens, List.reverse_cons, memberTokens_append_singleton] at took
        simpa [addMember, closeObject] using took

/-- **A step adds its token to those that have been taken.** -/
theorem Took.step {reader : Reader} (took : Took limit reader taken)
    (step : step? limit reader (.token token) = some next) :
    Took limit next (taken ++ [token]) := by
  cases took with
  | value opened => exact opened.begin step
  | itemOrClose opened room =>
      cases token
      case closeArray =>
        cases step
        have took := Took.separator opened (depth_array_le room (List.forall_mem_nil _))
        simpa [Json.tokens, itemTokens] using took
      all_goals exact (Opened.array opened room (List.forall_mem_nil _)).begin step
  | keyOrClose opened room =>
      cases token
      case closeObject =>
        cases step
        have took := Took.separator opened (depth_object_le room (List.forall_mem_nil _))
        simpa [Json.tokens, memberTokens] using took
      all_goals exact opened.beginMember room (List.forall_mem_nil _) step
  | key opened room fit => exact opened.beginMember room fit step
  | @colon frames taken members key opened room fit =>
      cases token <;> cases step
      have took := Took.value (@Opened.object _ _ _ _ key opened room fit)
      simpa [keyTokens] using took
  | separator opened fit => exact opened.endValue fit step

/-- **A run adds its tokens to those that have been taken.** -/
theorem Took.run {reader last : Reader} (took : Took limit reader taken) {tokens : List Token}
    (run : after? limit reader tokens = some last) : Took limit last (taken ++ tokens) := by
  induction tokens generalizing reader taken with
  | nil =>
      cases run
      rwa [List.append_nil]
  | cons token rest ih =>
      rw [after?_cons] at run
      obtain ⟨next, step, later⟩ := Option.bind_eq_some_iff.mp run
      rw [List.append_cons]
      exact ih (took.step step) later

end Step

/-- A reader has a result when it has read a value and no frame is open. -/
theorem eq_of_result? {reader : Reader} {json : Json} (result : reader.result? = some json) :
    reader = ⟨[], .separator json⟩ := by
  obtain ⟨frames, phase⟩ := reader
  cases frames <;> cases phase <;> cases result
  rfl

/-- When no frame is open, all tokens that have been taken are those of the value. -/
theorem Took.complete {taken : List Token} {json : Json}
    (took : Took limit ⟨[], .separator json⟩ taken) : taken = json.tokens ∧ json.depth ≤ limit := by
  cases took with
  | separator opened fit =>
      cases opened
      exact ⟨rfl, (Nat.zero_add json.depth).symm.trans_le fit⟩

end Reader

/-- **Tokens are read as a value exactly if they are those of the value** and the arrays and objects
that are open at once stay within the limit. -/
theorem ofLexemes?_eq_some_iff {limit : Nat} {tokens : List Token} {json : Json} :
    ofLexemes? limit (tokens.map .token) = some json ↔
      tokens = json.tokens ∧ json.depth ≤ limit := by
  have run : ofLexemes? limit (tokens.map .token) =
      (Reader.after? limit ⟨[], .value⟩ tokens).bind Reader.result? := rfl
  rw [run]
  constructor
  · intro read
    obtain ⟨last, taken, result⟩ := Option.bind_eq_some_iff.mp read
    have took := (Reader.Took.value .nil).run taken
    rw [Reader.eq_of_result? result] at took
    exact took.complete
  · rintro ⟨rfl, shallow⟩
    have fits : ([] : List Frame).length + json.depth ≤ limit := by simpa using shallow
    rw [Reader.after?_tokens json fits]
    rfl

/-- **A text denotes a value exactly if it is written for the value** and no more than 127 arrays
and objects lie within each other. -/
theorem parse?_eq_some_iff {text : String} {json : Json} :
    parse? text = some json ↔ json.IsWrittenAs text ∧ json.depth ≤ maximalDepth := by
  refine ⟨fun read => ?_, fun ⟨written, shallow⟩ => parse?_of_isWrittenAs shallow written⟩
  simp only [parse?, Option.bind_eq_bind, Option.bind_eq_some_iff] at read
  obtain ⟨lexemes, found, read⟩ := read
  obtain ⟨known, value⟩ := Option.ite_none_right_eq_some.mp read
  obtain ⟨tokens, rfl⟩ := Lexeme.all_isToken.mp known
  obtain ⟨rfl, shallow⟩ := ofLexemes?_eq_some_iff.mp value
  exact ⟨Lexeme.all?_eq_some_iff.mp found, shallow⟩

/-- A text is written for one value at most. -/
theorem IsWrittenAs.unique {text : String} {json other : Json} (written : json.IsWrittenAs text)
    (also : other.IsWrittenAs text) : json = other := by
  have lexemes := Option.some.inj ((Lexeme.all?_eq_some_iff.mpr written).symm.trans
    (Lexeme.all?_eq_some_iff.mpr also))
  have tokens : json.tokens = other.tokens :=
    List.map_injective_iff.mpr (fun _ _ => Lexeme.token.inj) lexemes
  have first := ofLexemes?_eq_some_iff.mpr
    ⟨rfl, Nat.le_max_left json.depth other.depth⟩
  have second := ofLexemes?_eq_some_iff.mpr
    ⟨tokens, Nat.le_max_right json.depth other.depth⟩
  exact Option.some.inj (first.symm.trans second)

end Json

end CatalogSearch
