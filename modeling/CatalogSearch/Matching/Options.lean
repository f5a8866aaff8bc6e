import CatalogSearch.Codec.Record

/-!
# Match options

The structured condition of a field: any, all, none or exactly the given texts. A set of options is
kept in the shape in which it was written, a single text or a list.
-/

namespace CatalogSearch

/-- One text or a list of texts. -/
inductive Texts where
  | one (text : String)
  | many (texts : List String)
deriving DecidableEq

namespace Texts

/-- The texts as a list. -/
def toList : Texts → List String
  | .one text => [text]
  | .many texts => texts

/-- Whether a list of texts is empty. One text never is. -/
def isEmpty (texts : Texts) : Bool :=
  texts.toList.isEmpty

/-- One text is written as a string and several as an array. -/
def toJson : Texts → Json
  | .one text => .string text
  | .many texts => .ofStrings texts

/-- Decodes a text or an array of texts. -/
def decode : Decoder Texts
  | .string text => .ok (.one text)
  | .array items =>
      match Decode.items Decode.string items with
      | .ok texts => .ok (.many texts)
      | .error _ => .error .notTexts
  | _ => .error .notTexts

end Texts

/-- The condition that all its present parts hold: `any`, the field shares a text with the set;
`all` and `exact`, the field has every text of the set; `not`, the field has no text of the set. -/
structure MatchOptions where
  any : Option Texts
  all : Option Texts
  not : Option Texts
  exact : Option Texts
deriving DecidableEq

namespace MatchOptions

/-- Options without parts. -/
def empty : MatchOptions :=
  ⟨none, none, none, none⟩

/-- The condition of sharing a text with a list. -/
def ofAny (texts : List String) : MatchOptions :=
  { empty with any := some (.many texts) }

/-- Whether no part is present, not even one without texts. -/
def isEmpty (options : MatchOptions) : Bool :=
  options.any.isNone && options.all.isNone && options.not.isNone && options.exact.isNone

/-- The member for a part, if the part is present. -/
def partMember (name : String) : Option Texts → List (String × Json)
  | none => []
  | some texts => [(name, texts.toJson)]

/-- The written form, with the parts that are present. -/
def toJson (options : MatchOptions) : Json :=
  .object (partMember "any" options.any ++ partMember "all" options.all ++
    partMember "not" options.not ++ partMember "exact" options.exact)

/-- The four parts as the fields of a record. -/
def record : Record MatchOptions :=
  (Record.done mk).andThen (Record.optional "any" Texts.decode)
    |>.andThen (Record.optional "all" Texts.decode)
    |>.andThen (Record.optional "not" Texts.decode)
    |>.andThen (Record.optional "exact" Texts.decode)

/-- Decodes options, which may have no members but their parts. -/
def decode : Decoder MatchOptions :=
  record.decode "MatchOptions" true

/-- The texts of a part, if there is one. -/
def nonempty? (part : Option Texts) : Option (List String) :=
  match part with
  | none => none
  | some texts => if texts.isEmpty then none else some texts.toList

end MatchOptions

end CatalogSearch
