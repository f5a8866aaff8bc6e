import CatalogSearch.Json.Quoted
import CatalogSearch.Proofs.Syntax.Delimited
import CatalogSearch.Proofs.Text.Utf8
import CatalogSearch.Request.Ogc
import Mathlib.Data.List.Forall2
import Mathlib.Logic.Function.Basic

/-!
# Reading query strings

A query string is read by splitting it at the ampersands, every part at its first equals sign, and
decoding the values. The query string of a request is read as the fields that are present in it, and
it belongs to no other request (`ItemsRequest.read?_queryString`).
-/

namespace CatalogSearch

namespace PercentEncoding

/-- The bytes that an encoded text stands for, if two hexadecimal digits follow every percent
sign. -/
def bytes? : List Char → Option (List UInt8)
  | [] => some []
  | '%' :: high :: low :: rest => do
      let value := 16 * (← Quoted.hexValue? high) + (← Quoted.hexValue? low)
      some (UInt8.ofNat value :: (← bytes? rest))
  | character :: rest =>
      if character = '%' then none
      else do some (String.utf8EncodeChar character ++ (← bytes? rest))

/-- The text that an encoded text stands for. -/
def decode? (characters : List Char) : Option String :=
  (bytes? characters).bind Utf8.decode?

theorem hexValue?_hexDigit {value : Nat} (small : value < 16) :
    Quoted.hexValue? (hexDigit value) = some value := by
  interval_cases value <;> rfl

/-- A character other than a percent sign stands for its bytes. -/
theorem bytes?_cons {character : Char} (other : character ≠ '%') (rest : List Char) :
    bytes? (character :: rest) =
      (bytes? rest).map (String.utf8EncodeChar character ++ ·) := by
  rw [bytes?.eq_3 _ _ fun _ _ _ percent _ => other percent, if_neg other]
  cases bytes? rest <;> rfl

/-- Unreserved bytes are single characters, and neither a percent sign nor an ampersand. -/
theorem isUnreserved_bounds {byte : UInt8} (unreserved : isUnreserved byte = true) :
    byte.toNat < 128 ∧ byte.toNat ≠ 37 ∧ byte.toNat ≠ 38 := by
  simp only [isUnreserved, Bool.or_eq_true, Bool.and_eq_true, decide_eq_true_eq, beq_iff_eq]
    at unreserved
  omega

/-- A small byte is the code of its character. -/
theorem toNat_ofNat {byte : UInt8} (small : byte.toNat < 128) :
    (Char.ofNat byte.toNat).toNat = byte.toNat := by
  rw [Char.ofNat, dif_pos (.inl (by omega))]
  rfl

/-- A byte is read back from the characters that it is written as. -/
theorem bytes?_encodeByte_append (byte : UInt8) (rest : List Char) :
    bytes? (encodeByte byte ++ rest) = (bytes? rest).map (byte :: ·) := by
  unfold encodeByte
  split
  · rename_i unreserved
    obtain ⟨small, percent, -⟩ := isUnreserved_bounds unreserved
    have code : (Char.ofNat byte.toNat).toNat = byte.toNat := toNat_ofNat small
    have other : Char.ofNat byte.toNat ≠ '%' := by
      intro same
      rw [same] at code
      exact percent code.symm
    have single : String.utf8EncodeChar (Char.ofNat byte.toNat) = [byte] := by
      unfold String.utf8EncodeChar
      simp only [show (Char.ofNat byte.toNat).val.toNat = byte.toNat from code]
      rw [if_pos (by omega), UInt8.ofNat_toNat]
    rw [List.singleton_append, bytes?_cons other, single]
    rfl
  · have inByte := byte.toNat_lt
    have whole : 16 * (byte.toNat / 16) + byte.toNat % 16 = byte.toNat := by omega
    rw [List.cons_append, List.cons_append, List.singleton_append, bytes?,
      hexValue?_hexDigit (show byte.toNat / 16 < 16 by omega),
      hexValue?_hexDigit (Nat.mod_lt _ (by omega))]
    simp only [Option.bind_eq_bind, Option.bind_some, whole, UInt8.ofNat_toNat]
    cases bytes? rest <;> rfl

/-- Encoded bytes are read back. -/
theorem bytes?_flatMap_encodeByte (bytes : List UInt8) :
    bytes? (bytes.flatMap encodeByte) = some bytes := by
  induction bytes with
  | nil => rfl
  | cons byte rest ih => rw [List.flatMap_cons, bytes?_encodeByte_append, ih, Option.map_some]

/-- A text is encoded byte by byte. -/
theorem encode_eq (text : String) : encode text = (Utf8.encode text).flatMap encodeByte :=
  List.flatMap_assoc.symm

/-- A text is decoded from its encoding. -/
theorem decode?_encode (text : String) : decode? (encode text) = some text := by
  rw [decode?, encode_eq, bytes?_flatMap_encodeByte, Option.bind_some, Utf8.decode?_encode]

/-- No encoding contains an ampersand. -/
theorem not_mem_encode (text : String) : '&' ∉ encode text := by
  have hex {value : Nat} (small : value < 16) : hexDigit value ≠ '&' := by
    interval_cases value <;> decide
  rw [encode_eq, List.mem_flatMap]
  rintro ⟨byte, -, member⟩
  have inByte := byte.toNat_lt
  unfold encodeByte at member
  split at member
  · rename_i unreserved
    obtain ⟨small, -, ampersand⟩ := isUnreserved_bounds unreserved
    rw [List.mem_singleton] at member
    refine ampersand ?_
    rw [← toNat_ofNat small, ← member]
    rfl
  · simp only [List.mem_cons, List.not_mem_nil, or_false] at member
    rcases member with percent | high | low
    · exact absurd percent (by decide)
    · exact hex (by omega) high.symm
    · exact hex (by omega) low.symm

end PercentEncoding

/-- A list is read when each of its elements is. -/
theorem mapM_eq_some_of_forall₂ {α β : Type} {read : α → Option β} {elements : List α}
    {results : List β}
    (each : List.Forall₂ (fun element result => read element = some result) elements results) :
    elements.mapM read = some results := by
  induction each with
  | nil => rfl
  | cons first _ ih =>
      rw [List.mapM_cons, first, ih]
      rfl

namespace QueryString

open PercentEncoding (decode?)

/-- The name and the value of a part, which its first equals sign divides. -/
def pair? (part : List Char) : Option (String × String) :=
  match part.dropWhile (· != '=') with
  | [] => none
  | _ :: value => (decode? value).map fun text =>
      (String.ofList (part.takeWhile (· != '=')), text)

/-- The names and values of a query string. -/
def read? (text : String) : Option (List (String × String)) :=
  (List.splitOn '&' text.toList).mapM pair?

/-- A pair is read back from its text, if its name has no equals sign. -/
theorem pair?_pairText {name : String} (plain : '=' ∉ name.toList) (value : String) :
    pair? (ItemsRequest.pairText (name, value)) = some (name, value) := by
  have kept : ∀ character ∈ name.toList, (character != '=') = true := fun character member =>
    bne_iff_ne.mpr fun same => plain (same ▸ member)
  have stops : Grammar.Stops (· != '=') ('=' :: PercentEncoding.encode value) :=
    Grammar.stops_cons (by decide)
  obtain ⟨taken, left⟩ := Grammar.span_append kept stops
  rw [pair?, ItemsRequest.pairText, left, taken]
  simp only [PercentEncoding.decode?_encode, Option.map_some, String.ofList_toList]

/-- Parts that can be told apart are read as the pairs that they are written for. -/
theorem read?_parts {pairs : List (String × String)} (content : pairs ≠ [])
    (plain : ∀ pair ∈ pairs, '=' ∉ pair.1.toList ∧ '&' ∉ pair.1.toList) :
    read? (String.ofList (['&'].intercalate (pairs.map ItemsRequest.pairText))) = some pairs := by
  have apart : ∀ part ∈ pairs.map ItemsRequest.pairText, '&' ∉ part := by
    intro part inside
    obtain ⟨⟨name, value⟩, member, rfl⟩ := List.mem_map.mp inside
    rw [ItemsRequest.pairText, List.mem_append, List.mem_cons, not_or, not_or]
    exact ⟨(plain _ member).2, by decide, PercentEncoding.not_mem_encode value⟩
  rw [read?, String.toList_ofList, List.splitOn_intercalate '&' apart (by simpa using content)]
  refine mapM_eq_some_of_forall₂ (List.forall₂_map_left_iff.mpr (List.forall₂_same.mpr ?_))
  exact fun pair member => pair?_pairText (plain pair member).1 pair.2

example : read? "q=a%26b%3D%C3%A9&limit=10" = some [("q", "a&b=é"), ("limit", "10")] := by
  decide

/-- The fields that are present, with their names. -/
def present (fields : List (String × Option String)) : List (String × String) :=
  fields.filterMap fun (name, value) => value.map fun text => (name, text)

theorem present_nil : present [] = [] :=
  rfl

theorem present_cons (name : String) (value : Option String)
    (rest : List (String × Option String)) :
    present ((name, value) :: rest) =
      (value.map fun text => (name, text)).toList ++ present rest := by
  cases value <;> rfl

/-- The names of fields that are present are names of fields. -/
theorem mem_names_of_mem_present {fields : List (String × Option String)} {pair : String × String}
    (member : pair ∈ present fields) : pair.1 ∈ fields.map Prod.fst := by
  obtain ⟨⟨name, value⟩, inside, given⟩ := List.mem_filterMap.mp member
  obtain ⟨text, -, rfl⟩ := Option.map_eq_some_iff.mp given
  exact List.mem_map_of_mem inside

/-- Fields with different names are known from those that are present. -/
theorem eq_of_present_eq {fields others : List (String × Option String)}
    (names : fields.map Prod.fst = others.map Prod.fst) (distinct : (fields.map Prod.fst).Nodup)
    (same : present fields = present others) : fields = others := by
  induction fields generalizing others with
  | nil => exact (List.map_eq_nil_iff.mp names.symm).symm
  | cons field rest ih =>
      obtain ⟨name, value⟩ := field
      obtain _ | ⟨⟨otherName, otherValue⟩, otherRest⟩ := others
      · cases names
      · obtain ⟨rfl, restNames⟩ := List.cons.inj names
        obtain ⟨missing, restDistinct⟩ := List.nodup_cons.mp distinct
        rw [present_cons, present_cons] at same
        cases value with
        | none =>
            cases otherValue with
            | none => rw [ih restNames restDistinct same]
            | some text =>
                have whole : present rest = (name, text) :: present otherRest := same
                have inside : (name, text) ∈ present rest := whole ▸ List.mem_cons_self
                exact absurd (mem_names_of_mem_present inside) missing
        | some text =>
            cases otherValue with
            | none =>
                have whole : (name, text) :: present rest = present otherRest := same
                have inside : (name, text) ∈ present otherRest := whole ▸ List.mem_cons_self
                exact absurd (restNames ▸ mem_names_of_mem_present inside) missing
            | some otherText =>
                obtain ⟨first, others⟩ := List.cons.inj same
                rw [(Prod.mk.inj first).2, ih restNames restDistinct others]

end QueryString

namespace ItemsRequest

/-- The fields of a request in order, numbers in decimal. -/
def fields (request : ItemsRequest) : List (String × Option String) :=
  [("filter", request.filter), ("q", request.terms), ("bbox", request.boundingBox),
    ("limit", some (decimalText request.limit)),
    ("startindex", request.start.map decimalText), ("sortBy", request.sortBy)]

/-- The names of the fields. -/
def fieldNames : List String :=
  ["filter", "q", "bbox", "limit", "startindex", "sortBy"]

theorem names_fields (request : ItemsRequest) : request.fields.map Prod.fst = fieldNames :=
  rfl

/-- The pairs of a request are its fields that are present. -/
theorem pairs_eq (request : ItemsRequest) : request.pairs = QueryString.present request.fields := by
  simp only [pairs, fields, QueryString.present_cons, QueryString.present_nil, Option.map_map,
    Option.map_some, Option.toList_some, List.append_assoc, List.append_nil]
  rfl

/-- A number is determined by its decimal text. -/
theorem decimalText_injective : Function.Injective decimalText := by
  intro first second same
  have values := congrArg (fun text => Numeral.value text.toList) same
  simp only [decimalText, String.toList_ofList, Numeral.value_digits] at values
  exact UInt32.toNat_inj.mp values

/-- A request is determined by its fields. -/
theorem fields_injective : Function.Injective fields := by
  intro request other same
  simp only [fields, List.cons.injEq, Prod.mk.injEq, Option.some.injEq, true_and, and_true] at same
  obtain ⟨filter, terms, boundingBox, limit, start, sortBy⟩ := same
  cases request
  cases other
  simp only [mk.injEq]
  exact ⟨filter, terms, boundingBox, decimalText_injective limit,
    Option.map_injective decimalText_injective start, sortBy⟩

/-- The query string of a request is read as the pairs of it. -/
theorem read?_queryString_eq (request : ItemsRequest) :
    QueryString.read? request.queryString = some request.pairs := by
  have plain : ∀ name ∈ fieldNames, '=' ∉ name.toList ∧ '&' ∉ name.toList := by decide
  refine QueryString.read?_parts (by simp [pairs]) fun pair member => plain pair.1 ?_
  rw [pairs_eq] at member
  rw [← request.names_fields]
  exact QueryString.mem_names_of_mem_present member

/-- **Query strings can be read back.** The query string of a request is read as exactly the fields
that are present in it, in order and with their texts, so different requests have different query
strings. -/
theorem read?_queryString :
    (∀ request : ItemsRequest, QueryString.read? request.queryString =
      some (QueryString.present request.fields)) ∧ Function.Injective queryString := by
  have read (request : ItemsRequest) : QueryString.read? request.queryString =
      some (QueryString.present request.fields) := request.pairs_eq ▸ request.read?_queryString_eq
  refine ⟨read, fun request other same => fields_injective ?_⟩
  have present := (read request).symm.trans ((congrArg QueryString.read? same).trans (read other))
  refine QueryString.eq_of_present_eq (request.names_fields.trans other.names_fields.symm) ?_
    (Option.some.inj present)
  rw [names_fields]
  decide

end ItemsRequest

end CatalogSearch
