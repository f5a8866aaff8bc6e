import CatalogSearch.Proofs.Json.Reading
import CatalogSearch.Proofs.Request.QueryString
import CatalogSearch.Request.Portal

/-!
# Both forms of a request

A request is sent as pairs or as an object. Every member of the object spells the pair in its place
(`SpellsPair`), so the text of the object is read as the same pairs, in order and with repeated
names (`Query.forms_agree`).
-/

namespace CatalogSearch

namespace Json

/-- The text of a member's value: that of a string itself, or a number in decimal. -/
def pairText? : Json → Option String
  | .string text => some text
  | .number value => some value.text
  | _ => none

/-- A member as a pair of texts. -/
def pair? (member : String × Json) : Option (String × String) :=
  member.2.pairText?.map fun text => (member.1, text)

/-- The members of the object that a text denotes, in order and with repeated keys. -/
def readPairs? (text : String) : Option (List (String × String)) :=
  match parse? text with
  | some (.object members) => members.mapM pair?
  | _ => none

end Json

/-- Whether a member spells a pair: by the text itself or by the number whose decimal text it is. -/
inductive SpellsPair : String × Json → String × String → Prop where
  | text (name value : String) : SpellsPair (name, .string value) (name, value)
  | number (name : String) (value : UInt32) :
      SpellsPair (name, .number (.ofUInt32 value)) (name, decimalText value)

/-- The number of a 32-bit value is written in decimal. -/
theorem Number.text_ofUInt32 (value : UInt32) :
    (Number.ofUInt32 value).text = decimalText value := by
  have nonneg : ¬ (value.toNat : Int) < 0 := by omega
  rw [Number.text, Number.ofUInt32, Number.characters, Numeral.ofInt, if_neg nonneg]
  rfl

namespace SpellsPair

variable {member : String × Json} {pair : String × String}

/-- A member that spells a pair is read as the pair. -/
theorem pair?_eq (spells : SpellsPair member pair) : Json.pair? member = some pair := by
  cases spells with
  | text name value => rfl
  | number name value => exact congrArg (fun text => some (name, text)) (Number.text_ofUInt32 value)

/-- A member that spells a pair has a plain value. -/
theorem isPlain (spells : SpellsPair member pair) (bound : Nat) : member.2.IsPlain bound := by
  cases spells with
  | text name value => exact Json.isPlain_string value
  | number name value => exact Json.isPlain_number rfl

end SpellsPair

section Lists

variable {members : List (String × Json)} {pairs : List (String × String)}

/-- An object whose members spell pairs is read back as these. -/
theorem Json.readPairs?_compact (spells : List.Forall₂ SpellsPair members pairs) :
    readPairs? (object members).compact = some pairs := by
  have each : ∀ member ∈ members, member.2.IsPlain 126 :=
    ((List.forall₂_and_left members pairs).mp
      (spells.imp fun _ _ spelled => ⟨spelled.isPlain 126, spelled⟩)).1
  rw [readPairs?, parse?_compact (isPlain_object each)]
  exact mapM_eq_some_of_forall₂ (spells.imp fun _ _ => SpellsPair.pair?_eq)

/-- A member that may be absent spells a pair that is absent with it. -/
theorem spellsPair_option {α : Type} {member : α → String × Json} {pair : α → String × String}
    (each : ∀ value, SpellsPair (member value) (pair value)) (value : Option α) :
    List.Forall₂ SpellsPair (value.map member).toList (value.map pair).toList := by
  cases value with
  | none => exact .nil
  | some value => exact .cons (each value) .nil

end Lists

/-- The members of options spell the pairs in their places. -/
theorem RequestOptions.spells_members (options : RequestOptions) :
    List.Forall₂ SpellsPair options.members options.pairs := by
  refine List.rel_append (List.rel_append (List.rel_append ?_ ?_) ?_) ?_
  · exact spellsPair_option (fun limit => .number "num" limit) options.limit
  · exact spellsPair_option (fun start => .number "start" start) options.start
  · exact spellsPair_option (fun field => .text "sortField" field) options.sortField
  · exact spellsPair_option (fun order => .text "sortOrder" order.name) options.sortOrder

/-- A portal request is read back from its object as its pairs. -/
theorem PortalRequest.readPairs?_toJson (request : PortalRequest) :
    Json.readPairs? request.toJson.compact = some request.pairs := by
  refine Json.readPairs?_compact (List.rel_append (List.rel_append (List.rel_append ?_ ?_) ?_)
    request.options.spells_members)
  · exact spellsPair_option (fun text => .text "q" text) request.search.query
  · exact spellsPair_option (fun text => .text "filter" text) request.search.exact
  · exact List.forall₂_map_left_iff.mpr (List.forall₂_same.mpr fun parameter _ =>
      .text parameter.1 parameter.2)

/-- A request to the items interface is read back from its object as its pairs. -/
theorem ItemsRequest.readPairs?_toJson (request : ItemsRequest) :
    Json.readPairs? request.toJson.compact = some request.pairs := by
  refine Json.readPairs?_compact (List.rel_append (List.rel_append (List.rel_append
    (List.rel_append (List.rel_append ?_ ?_) ?_) ?_) ?_) ?_)
  · exact spellsPair_option (fun text => .text "filter" text) request.filter
  · exact spellsPair_option (fun text => .text "q" text) request.terms
  · exact spellsPair_option (fun text => .text "bbox" text) request.boundingBox
  · exact .cons (.number "limit" request.limit) .nil
  · exact spellsPair_option (fun start => .number "startindex" start) request.start
  · exact spellsPair_option (fun field => .text "sortBy" field) request.sortBy

/-- **Both forms of a request agree.** The text of the object of a portal request is read as the
pairs that are sent instead, and that of a request to the items interface as what its query string
is read as, in order and with repeated names. -/
theorem Query.forms_agree (query : Query) (options : RequestOptions) (portal : PortalSettings)
    (items : OgcSettings) (now : Instant) :
    Json.readPairs? (PortalRequest.ofQuery portal options now query).toJson.compact =
        some (PortalRequest.ofQuery portal options now query).pairs ∧
      ∃ pairs, QueryString.read? (ItemsRequest.ofQuery items options now query).queryString =
          some pairs ∧
        Json.readPairs? (ItemsRequest.ofQuery items options now query).toJson.compact =
          some pairs :=
  ⟨PortalRequest.readPairs?_toJson _, _, ItemsRequest.read?_queryString_eq _,
    ItemsRequest.readPairs?_toJson _⟩

end CatalogSearch
