import CatalogSearch.Json.Reader
import CatalogSearch.Proofs.Json.Scanning

/-!
# Reading back values

The reader turns the tokens of a value into the value, if it may have that many arrays and objects
open at once (`Json.Reader.after?_tokens`). So a value without doubles that is not nested too deeply
is read back from its compact text (`Json.parse?_compact`).
-/

namespace CatalogSearch

namespace Json

mutual

/-- How many arrays and objects of a value lie within each other. -/
def depth : Json → Nat
  | .array items => itemsDepth items + 1
  | .object members => membersDepth members + 1
  | .null => 0
  | .bool _ => 0
  | .number _ => 0
  | .string _ => 0

/-- The greatest depth of the items. -/
def itemsDepth : List Json → Nat
  | [] => 0
  | item :: rest => max item.depth (itemsDepth rest)

/-- The greatest depth of the values of the members. -/
def membersDepth : List (String × Json) → Nat
  | [] => 0
  | (_, value) :: rest => max value.depth (membersDepth rest)

end

/-- Items are no deeper than a bound for each of them. -/
theorem itemsDepth_le {items : List Json} {bound : Nat}
    (each : ∀ item ∈ items, item.depth ≤ bound) : itemsDepth items ≤ bound := by
  induction items with
  | nil => exact Nat.zero_le bound
  | cons item rest ih =>
      exact Nat.max_le.mpr ⟨each item List.mem_cons_self,
        ih fun other inside => each other (List.mem_cons_of_mem item inside)⟩

/-- Members are no deeper than a bound for the value of each. -/
theorem membersDepth_le {members : List (String × Json)} {bound : Nat}
    (each : ∀ member ∈ members, member.2.depth ≤ bound) : membersDepth members ≤ bound := by
  induction members with
  | nil => exact Nat.zero_le bound
  | cons member rest ih =>
      exact Nat.max_le.mpr ⟨each member List.mem_cons_self,
        ih fun other inside => each other (List.mem_cons_of_mem member inside)⟩

/-- An array around items is one deeper than they are. -/
theorem depth_array_le {items : List Json} {count limit : Nat} (room : count < limit)
    (fit : ∀ item ∈ items, count + item.depth < limit) : count + (array items).depth ≤ limit := by
  have deepest : itemsDepth items ≤ limit - count - 1 := itemsDepth_le fun item member => by
    have := fit item member
    omega
  rw [depth]
  omega

/-- An object around members is one deeper than their values are. -/
theorem depth_object_le {members : List (String × Json)} {count limit : Nat} (room : count < limit)
    (fit : ∀ member ∈ members, count + member.2.depth < limit) :
    count + (object members).depth ≤ limit := by
  have deepest : membersDepth members ≤ limit - count - 1 := membersDepth_le fun member inside => by
    have := fit member inside
    omega
  rw [depth]
  omega

/-- An empty array within arrays that hold nothing else, as many as given. -/
def nested : Nat → Json
  | 0 => .array []
  | levels + 1 => .array [nested levels]

/-- Empty arrays around each other are as deep as there are of them. -/
theorem depth_nested (levels : Nat) : (nested levels).depth = levels + 1 := by
  induction levels with
  | zero => rfl
  | succ levels ih => rw [nested, depth, itemsDepth, itemsDepth, ih, Nat.max_zero]

/-- There are no doubles in empty arrays. -/
theorem isExact_nested (levels : Nat) : (nested levels).IsExact := by
  induction levels with
  | zero => exact isExact_array (List.forall_mem_nil _)
  | succ levels ih => exact isExact_array (List.forall_mem_singleton.mpr ih)

/-- Whether a value holds no doubles and at most so many arrays and objects within each other. -/
structure IsPlain (bound : Nat) (json : Json) : Prop where
  exact : json.IsExact
  shallow : json.depth ≤ bound

section Plain

variable {bound : Nat}

theorem isPlain_string (text : String) : (string text).IsPlain bound :=
  ⟨isExact_string text, Nat.zero_le bound⟩

theorem isPlain_bool (flag : Bool) : (bool flag).IsPlain bound :=
  ⟨isExact_bool flag, Nat.zero_le bound⟩

theorem isPlain_number {value : Number} (integer : value.isInteger = true) :
    (number value).IsPlain bound :=
  ⟨isExact_number integer, Nat.zero_le bound⟩

/-- An array is plain with one level more than its items. -/
theorem isPlain_array {items : List Json} (each : ∀ item ∈ items, item.IsPlain bound) :
    (array items).IsPlain (bound + 1) :=
  ⟨isExact_array fun item inside => (each item inside).exact,
    Nat.succ_le_succ (itemsDepth_le fun item inside => (each item inside).shallow)⟩

/-- An object is plain with one level more than its values. -/
theorem isPlain_object {members : List (String × Json)}
    (each : ∀ member ∈ members, member.2.IsPlain bound) : (object members).IsPlain (bound + 1) :=
  ⟨isExact_object fun member inside => (each member inside).exact,
    Nat.succ_le_succ (membersDepth_le fun member inside => (each member inside).shallow)⟩

theorem IsPlain.mono {json : Json} {greater : Nat} (plain : json.IsPlain bound)
    (most : bound ≤ greater) : json.IsPlain greater :=
  ⟨plain.exact, plain.shallow.trans most⟩

end Plain

namespace Reader

/-- The reader after some tokens, if it takes them. -/
def after? (depth : Nat) (reader : Reader) (tokens : List Token) : Option Reader :=
  (tokens.map Lexeme.token).foldlM (step? depth) reader

variable {limit : Nat}

theorem after?_cons (reader : Reader) (token : Token) (tokens : List Token) :
    after? limit reader (token :: tokens) =
      (step? limit reader (.token token)).bind fun next => after? limit next tokens :=
  rfl

theorem after?_append (reader : Reader) (front back : List Token) :
    after? limit reader (front ++ back) =
      (after? limit reader front).bind fun next => after? limit next back := by
  rw [after?, List.map_append, List.foldlM_append]
  rfl

/-- Behind an opening bracket, items are read as they are in an array without items. -/
theorem after?_itemOrClose (frames : List Frame) (item : Json) (rest : List Json)
    (tokens : List Token) :
    after? limit ⟨frames, .itemOrClose⟩ (itemTokens (item :: rest) ++ tokens) =
      after? limit ⟨.array [] :: frames, .value⟩ (itemTokens (item :: rest) ++ tokens) := by
  cases rest <;> cases item <;> rfl

/-- Behind an opening brace, members are read as they are in an object without members. -/
theorem after?_keyOrClose (frames : List Frame) (member : String × Json)
    (rest : List (String × Json)) (tokens : List Token) :
    after? limit ⟨frames, .keyOrClose⟩ (memberTokens (member :: rest) ++ tokens) =
      after? limit ⟨frames, .key (some [])⟩ (memberTokens (member :: rest) ++ tokens) := by
  cases rest <;> rfl

/-- Where there is room, an opening bracket is taken in the place of a value. -/
theorem after?_openArray {frames : List Frame} (room : frames.length < limit)
    (tokens : List Token) : after? limit ⟨frames, .value⟩ (.openArray :: tokens) =
      after? limit ⟨frames, .itemOrClose⟩ tokens := by
  rw [after?_cons]
  simp [step?, beginValue?, room]

/-- Where there is room, an opening brace is taken in the place of a value. -/
theorem after?_openObject {frames : List Frame} (room : frames.length < limit)
    (tokens : List Token) : after? limit ⟨frames, .value⟩ (.openObject :: tokens) =
      after? limit ⟨frames, .keyOrClose⟩ tokens := by
  rw [after?_cons]
  simp [step?, beginValue?, room]

mutual

/-- The tokens of a value are read as the value, within the frames that are open. -/
theorem after?_tokens : (json : Json) → ∀ {frames : List Frame},
    frames.length + json.depth ≤ limit →
      after? limit ⟨frames, .value⟩ json.tokens = some ⟨frames, .separator json⟩
  | .null, _, _ => rfl
  | .bool _, _, _ => rfl
  | .number _, _, _ => rfl
  | .string _, _, _ => rfl
  | .array [], frames, fits => by
      rw [depth] at fits
      rw [tokens, List.cons_append, after?_openArray (by omega)]
      rfl
  | .array (item :: rest), frames, fits => by
      rw [depth] at fits
      rw [tokens, List.cons_append, after?_openArray (by omega), after?_itemOrClose]
      exact after?_items (item :: rest) (List.cons_ne_nil item rest) [] (by omega)
  | .object [], frames, fits => by
      rw [depth] at fits
      rw [tokens, List.cons_append, after?_openObject (by omega)]
      rfl
  | .object (member :: rest), frames, fits => by
      rw [depth] at fits
      rw [tokens, List.cons_append, after?_openObject (by omega), after?_keyOrClose]
      exact after?_members (member :: rest) (List.cons_ne_nil member rest) [] (by omega)

/-- Items and a closing bracket complete the array that was begun. -/
theorem after?_items : (items : List Json) → items ≠ [] → (read : List Json) →
    ∀ {frames : List Frame}, frames.length + (itemsDepth items + 1) ≤ limit →
      after? limit ⟨.array read :: frames, .value⟩ (itemTokens items ++ [.closeArray]) =
        some ⟨frames, .separator (.array (read.reverse ++ items))⟩
  | [], content, _, _, _ => absurd rfl content
  | [item], _, read, frames, fits => by
      rw [itemsDepth] at fits
      have first := @after?_tokens item (.array read :: frames) (by rw [List.length_cons]; omega)
      rw [itemTokens, after?_append, first, ← List.reverse_cons]
      rfl
  | item :: next :: rest, _, read, frames, fits => by
      rw [itemsDepth] at fits
      have first := @after?_tokens item (.array read :: frames) (by rw [List.length_cons]; omega)
      have later := @after?_items (next :: rest) (List.cons_ne_nil next rest) (item :: read) frames
        (by omega)
      rw [List.reverse_cons, List.append_assoc] at later
      rw [itemTokens.eq_3 _ _ (List.cons_ne_nil next rest), List.append_assoc, after?_append, first]
      exact later

/-- Members and a closing brace complete the object that was begun. -/
theorem after?_members : (members : List (String × Json)) → members ≠ [] →
    (read : List (String × Json)) → ∀ {frames : List Frame},
      frames.length + (membersDepth members + 1) ≤ limit →
        after? limit ⟨frames, .key (some read)⟩ (memberTokens members ++ [.closeObject]) =
          some ⟨frames, .separator (.object (read.reverse ++ members))⟩
  | [], content, _, _, _ => absurd rfl content
  | [(key, value)], _, read, frames, fits => by
      rw [membersDepth] at fits
      have first := @after?_tokens value (.object (some read) (some key) :: frames)
        (by rw [List.length_cons]; omega)
      have named : after? limit ⟨frames, .key (some read)⟩
          (memberTokens [(key, value)] ++ [.closeObject]) =
            after? limit ⟨.object (some read) (some key) :: frames, .value⟩
              (value.tokens ++ [.closeObject]) := rfl
      rw [named, after?_append, first, ← List.reverse_cons]
      rfl
  | (key, value) :: next :: rest, _, read, frames, fits => by
      rw [membersDepth] at fits
      have first := @after?_tokens value (.object (some read) (some key) :: frames)
        (by rw [List.length_cons]; omega)
      have later := @after?_members (next :: rest) (List.cons_ne_nil next rest)
        ((key, value) :: read) frames (by omega)
      rw [List.reverse_cons, List.append_assoc] at later
      have named : after? limit ⟨frames, .key (some read)⟩
          (memberTokens ((key, value) :: next :: rest) ++ [.closeObject]) =
            after? limit ⟨.object (some read) (some key) :: frames, .value⟩
              (value.tokens ++ (.comma :: memberTokens (next :: rest) ++ [.closeObject])) := by
        rw [memberTokens.eq_3 _ _ _ (List.cons_ne_nil next rest), List.append_assoc]
        rfl
      rw [named, after?_append, first]
      exact later

end

end Reader

/-- A text that is written for a value denotes the value, if at most 127 arrays and objects lie
within each other. -/
theorem parse?_of_isWrittenAs {json : Json} (shallow : json.depth ≤ maximalDepth) {text : String}
    (written : json.IsWrittenAs text) : parse? text = some json := by
  have taken := @Reader.after?_tokens maximalDepth json []
    (by rw [List.length_nil, Nat.zero_add]; exact shallow)
  have tokens := Lexeme.all_isToken.mpr ⟨json.tokens, rfl⟩
  have value : ofLexemes? maximalDepth (json.tokens.map .token) = some json := by
    rw [ofLexemes?, Reader.start, ← Reader.after?, taken]
    rfl
  have read := Lexeme.all?_eq_some_iff.mpr written
  simp only [parse?, read, Option.bind_eq_bind, Option.bind_some, tokens, ↓reduceIte, value]

/-- A value without doubles and with at most 127 arrays and objects within each other is read back
from its compact text. -/
theorem parse?_compact {json : Json} (plain : json.IsPlain maximalDepth) :
    parse? json.compact = some json :=
  parse?_of_isWrittenAs plain.shallow (isWrittenAs_compact plain.exact)

end Json

end CatalogSearch
