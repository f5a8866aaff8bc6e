import CatalogSearch.Json.Lexeme
import CatalogSearch.Json.Printer

/-!
# Reading JSON

The reader takes one lexeme after the other and keeps the arrays and objects that are still open. A
text denotes a value if all its lexemes are tokens and no more than 127 arrays and objects are open
at once. Every other text of the same form still has an outline.
-/

namespace CatalogSearch

namespace Json

/-- An array or an object that is still open, with what has been read of it in reverse. An object
has no members once one of its keys has no value. -/
inductive Frame where
  | array (items : List Json)
  | object (members : Option (List (String × Json))) (key : Option String)

/-- What the reader expects next. -/
inductive Phase where
  | value
  | itemOrClose
  | keyOrClose
  | key (members : Option (List (String × Json)))
  | colon (members : Option (List (String × Json))) (key : Option String)
  | separator (value : Json)

/-- The state of the reader: the open frames, innermost first, and what is expected. -/
structure Reader where
  frames : List Frame
  phase : Phase

namespace Reader

/-- The reader before the first lexeme. -/
def start : Reader :=
  ⟨[], .value⟩

/-- The reader after a complete value. -/
def complete (frames : List Frame) (value : Json) : Option Reader :=
  some ⟨frames, .separator value⟩

/-- Takes the first lexeme of a value. A lexeme without a value stands for null. -/
def beginValue? (depth : Nat) (frames : List Frame) : Lexeme → Option Reader
  | .token .openArray => if frames.length < depth then some ⟨frames, .itemOrClose⟩ else none
  | .token .openObject => if frames.length < depth then some ⟨frames, .keyOrClose⟩ else none
  | .token .null => complete frames .null
  | .token (.bool flag) => complete frames (.bool flag)
  | .token (.string text) => complete frames (.string text)
  | .token (.number value) => complete frames (.number value)
  | .brokenString | .hugeNumber => complete frames .null
  | .token _ => none

/-- Takes the first lexeme of a member, which must be its key. -/
def beginMember? (frames : List Frame) (members : Option (List (String × Json))) :
    Lexeme → Option Reader
  | .token (.string key) => some ⟨frames, .colon members (some key)⟩
  | .brokenString => some ⟨frames, .colon members none⟩
  | _ => none

/-- The members with one more in front. -/
def addMember (members : Option (List (String × Json))) (key : Option String) (value : Json) :
    Option (List (String × Json)) :=
  match members, key with
  | some others, some text => some ((text, value) :: others)
  | _, _ => none

/-- The object with the given members in reverse, or null if it has none. -/
def closeObject : Option (List (String × Json)) → Json
  | some members => .object members.reverse
  | none => .null

/-- Takes the lexeme behind a value, which goes on with the innermost frame or closes it. -/
def endValue? (frames : List Frame) (value : Json) (lexeme : Lexeme) : Option Reader :=
  match frames, lexeme with
  | .array items :: outer, .token .comma => some ⟨.array (value :: items) :: outer, .value⟩
  | .array items :: outer, .token .closeArray => complete outer (.array (value :: items).reverse)
  | .object members key :: outer, .token .comma => some ⟨outer, .key (addMember members key value)⟩
  | .object members key :: outer, .token .closeObject =>
      complete outer (closeObject (addMember members key value))
  | _, _ => none

/-- Takes one lexeme. At most the given number of arrays and objects may be open at once. -/
def step? (depth : Nat) (reader : Reader) (lexeme : Lexeme) : Option Reader :=
  match reader.phase with
  | .value => beginValue? depth reader.frames lexeme
  | .itemOrClose =>
      match lexeme with
      | .token .closeArray => complete reader.frames (.array [])
      | other => beginValue? depth (.array [] :: reader.frames) other
  | .keyOrClose =>
      match lexeme with
      | .token .closeObject => complete reader.frames (.object [])
      | other => beginMember? reader.frames (some []) other
  | .key members => beginMember? reader.frames members lexeme
  | .colon members key =>
      match lexeme with
      | .token .colon => some ⟨.object members key :: reader.frames, .value⟩
      | _ => none
  | .separator value => endValue? reader.frames value lexeme

/-- The value that has been read when no frame is open. -/
def result? (reader : Reader) : Option Json :=
  match reader.frames, reader.phase with
  | [], .separator value => some value
  | _, _ => none

end Reader

/-- The value of a sequence of lexemes with at most the given number of arrays and objects open at
once. -/
def ofLexemes? (depth : Nat) (lexemes : List Lexeme) : Option Json := do
  (← lexemes.foldlM (Reader.step? depth) Reader.start).result?

/-- The number of arrays and objects that may be open at once in a text that denotes a value. -/
def maximalDepth : Nat := 127

/-- The value that a text denotes. -/
def parse? (text : String) : Option Json := do
  let lexemes ← Lexeme.all? text.toList
  if lexemes.all Lexeme.isToken then ofLexemes? maximalDepth lexemes else none

/-- The outline of a text: its value with null for every string or number without a value and for
every object with such a key, at any depth. -/
def outline? (text : String) : Option Json := do
  let lexemes ← Lexeme.all? text.toList
  ofLexemes? lexemes.length lexemes

end Json

end CatalogSearch
