import CatalogSearch.Proofs.Json.Reading

/-!
# Reading back indented texts

The line breaks of an indented text, and the blanks behind them, stand between tokens. So the text
spells the tokens of its value (`Json.spells_indentedAt`), and a value without doubles that is not
nested too deeply is read back from it (`Json.parse?_indented`).
-/

namespace CatalogSearch

namespace Json

section Writing

variable {spelled : List Token} {text : List Char}

/-- Blanks in front of a text that spells tokens change nothing. -/
theorem Spells.blanks {blanks : List Char}
    (white : ∀ character ∈ blanks, Token.isBlank character = true) (spells : Spells spelled text) :
    Spells spelled (blanks ++ text) := by
  induction blanks with
  | nil => exact spells
  | cons first rest ih =>
      have later := ih fun character member => white character (List.mem_cons_of_mem first member)
      exact .blank (white first List.mem_cons_self) later

/-- A line break with its indentation changes nothing either. -/
theorem Spells.lineBreak (level : Nat) (spells : Spells spelled text) :
    Spells spelled (lineBreak level ++ text) := by
  refine spells.blanks fun character member => ?_
  rcases List.mem_cons.mp member with rfl | indent
  · rfl
  · rw [List.eq_of_mem_replicate indent]
    rfl

/-- A key in quotation marks, a colon and a blank spell the key and the colon. -/
theorem Spells.member (key : String) (spells : Spells spelled text) :
    Spells (.string key :: .colon :: spelled)
      ((Token.string key).characters ++ ':' :: ' ' :: text) :=
  .token (.string key) trivial trivial (.token .colon trivial trivial (.blank rfl spells))

mutual

/-- The indented text of a value spells its tokens, whatever is spelled behind it. -/
theorem spells_indentedAt : (json : Json) → json.IsExact → ∀ (level : Nat)
    {others : List Token} {rest : List Char}, Spells others rest →
      Grammar.Stops Token.isLiteralCharacter rest →
        Spells (json.tokens ++ others) (json.indentedAt level ++ rest)
  | .null, _, _, _, _, spells, _ => .token .null trivial trivial spells
  | .bool flag, _, _, _, _, spells, _ => .token (.bool flag) trivial trivial spells
  | .number value, exact, _, _, _, spells, stops =>
      .token (.number value) (exact (.number value) List.mem_cons_self) stops spells
  | .string text, _, _, _, _, spells, _ => .token (.string text) trivial trivial spells
  | .array [], _, _, _, _, spells, _ =>
      .token .openArray trivial trivial (.token .closeArray trivial trivial spells)
  | .array (item :: items), exact, level, _, rest, spells, _ => by
      have inside : ∀ token ∈ itemTokens (item :: items), token.IsExact := fun token member =>
        exact token (by simp [tokens, member])
      have closed := (Spells.token .closeArray trivial trivial spells).lineBreak level
      have opened := Spells.token .openArray trivial trivial
        (spells_indentedItems (item :: items) inside (level + 1) closed (stops_mark rfl _))
      simpa [tokens, indentedAt, Token.characters] using opened
  | .object [], _, _, _, _, spells, _ =>
      .token .openObject trivial trivial (.token .closeObject trivial trivial spells)
  | .object (member :: members), exact, level, _, rest, spells, _ => by
      have inside : ∀ token ∈ memberTokens (member :: members), token.IsExact :=
        fun token found => exact token (by simp [tokens, found])
      have closed := (Spells.token .closeObject trivial trivial spells).lineBreak level
      have opened := Spells.token .openObject trivial trivial
        (spells_indentedMembers (member :: members) inside (level + 1) closed (stops_mark rfl _))
      simpa [tokens, indentedAt, Token.characters] using opened

/-- Indented items spell their tokens, whatever is spelled behind them. -/
theorem spells_indentedItems : (items : List Json) → (∀ token ∈ itemTokens items, token.IsExact) →
    ∀ (level : Nat) {others : List Token} {rest : List Char}, Spells others rest →
      Grammar.Stops Token.isLiteralCharacter rest →
        Spells (itemTokens items ++ others) (indentedItems level items ++ rest)
  | [], _, _, _, _, spells, _ => spells
  | [item], exact, level, _, _, spells, stops => by
      have first := (spells_indentedAt item exact level spells stops).lineBreak level
      simpa [itemTokens, indentedItems] using first
  | item :: next :: items, exact, level, _, rest, spells, stops => by
      have first : item.IsExact := fun token member => exact token (by simp [itemTokens, member])
      have later : ∀ token ∈ itemTokens (next :: items), token.IsExact := fun token member =>
        exact token (by simp [itemTokens, member])
      have apart := Spells.token .comma trivial trivial
        (spells_indentedItems (next :: items) later level spells stops)
      have whole := (spells_indentedAt item first level apart (stops_mark rfl _)).lineBreak level
      simpa [itemTokens, indentedItems, Token.characters] using whole

/-- Indented members spell their tokens, whatever is spelled behind them. -/
theorem spells_indentedMembers : (members : List (String × Json)) →
    (∀ token ∈ memberTokens members, token.IsExact) →
    ∀ (level : Nat) {others : List Token} {rest : List Char}, Spells others rest →
      Grammar.Stops Token.isLiteralCharacter rest →
        Spells (memberTokens members ++ others) (indentedMembers level members ++ rest)
  | [], _, _, _, _, spells, _ => spells
  | [(key, value)], exact, level, _, _, spells, stops => by
      have first : value.IsExact := fun token member => exact token (by simp [memberTokens, member])
      have named := ((spells_indentedAt value first level spells stops).member key).lineBreak level
      simpa [memberTokens, indentedMembers] using named
  | (key, value) :: next :: members, exact, level, _, rest, spells, stops => by
      have first : value.IsExact := fun token member => exact token (by simp [memberTokens, member])
      have later : ∀ token ∈ memberTokens (next :: members), token.IsExact := fun token member =>
        exact token (by simp [memberTokens, member])
      have apart := Spells.token .comma trivial trivial
        (spells_indentedMembers (next :: members) later level spells stops)
      have named :=
        ((spells_indentedAt value first level apart (stops_mark rfl _)).member key).lineBreak level
      simpa [memberTokens, indentedMembers, Token.characters] using named

end

end Writing

/-- A value without doubles may be written as its indented text. -/
theorem isWrittenAs_indented {json : Json} (exact : json.IsExact) :
    json.IsWrittenAs json.indented := by
  have spelled := spells_indentedAt json exact 0 .nil fun _ none => nomatch none
  rw [List.append_nil, List.append_nil] at spelled
  rwa [IsWrittenAs, indented, String.toList_ofList]

/-- A value without doubles and with at most 127 arrays and objects within each other is read back
from its indented text. -/
theorem parse?_indented {json : Json} (plain : json.IsPlain maximalDepth) :
    parse? json.indented = some json :=
  parse?_of_isWrittenAs plain.shallow (isWrittenAs_indented plain.exact)

end Json

end CatalogSearch
