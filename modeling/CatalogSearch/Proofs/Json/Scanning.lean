import CatalogSearch.Json.Lexeme
import CatalogSearch.Proofs.Json.Strings
import CatalogSearch.Proofs.Number.Literals

/-!
# The grammar of lexemes

How a lexeme is written (`Token.IsWritten`, `Lexeme.IsWritten`), and how lexemes are written one
after the other with blanks between them (`Lexeme.Spells`). A text is read as lexemes exactly if it
spells them (`Lexeme.all?_eq_some_iff`). A text is written for a value if it spells the tokens of
the value (`Json.IsWrittenAs`), as the compact text of a value without doubles does.
-/

namespace CatalogSearch

/-- An integer is read back from its decimal text. -/
theorem Number.ofLiteral?_ofInt {value : Int}
    (inRange : -9223372036854775808 ≤ value ∧ value < 18446744073709551616) :
    ofLiteral? (Numeral.ofInt value) = some (.integer value inRange) := by
  have whole : Literal.integer? (decide (value < 0)) (Numeral.digits value.natAbs) =
      some (.integer value inRange) := by
    have read := Numeral.value_digits value.natAbs
    unfold Literal.integer?
    dsimp only
    by_cases negative : value < 0
    · rw [decide_eq_true negative, if_pos rfl, dif_pos (by omega), Option.some.injEq, integer.injEq]
      omega
    · rw [decide_eq_false negative, if_neg Bool.false_ne_true, dif_pos (by omega),
        Option.some.injEq, integer.injEq]
      omega
  refine ofLiteral?_eq_some_iff.mpr ⟨_, Literal.spells_ofInt value, ?_⟩
  simp only [Literal.Parts.number?, whole]
  rfl

namespace Token

/-- Whether a token is always written in the same way, as a mark or a word. -/
def IsFixed : Token → Prop
  | .string _ => False
  | .number _ => False
  | _ => True

/-- How a token is written. A string is written as any pieces that join to it, so that no half of a
surrogate pair stands alone, and a number as any literal for it, which none is that is too large for
a double. -/
inductive IsWritten : Token → List Char → Prop where
  | fixed (token : Token) (fixed : token.IsFixed) : IsWritten token token.characters
  | string {pieces : List Quoted.Piece} {text joined : List Char}
      (spelled : Quoted.Spells pieces text) (known : Quoted.join? pieces = some joined) :
      IsWritten (.string (String.ofList joined)) ('"' :: text ++ ['"'])
  | number {parts : Literal.Parts} {text : List Char} {value : Number}
      (spelled : Literal.Spells parts text) (known : parts.number? = some value) :
      IsWritten (.number value) text

/-- Whether a text may follow a token: behind a number, nothing that continues it. -/
def EndsBefore (token : Token) (rest : List Char) : Prop :=
  match token with
  | .number _ => Grammar.Stops isLiteralCharacter rest
  | _ => True

theorem isLiteralCharacter_of_isDigit {character : Char} (digit : character.isDigit = true) :
    isLiteralCharacter character = true := by
  simp [isLiteralCharacter, digit]

end Token

namespace Literal

/-- Every character of a literal belongs to literals. -/
theorem Spells.isLiteralCharacter {parts : Parts} {text : List Char} (spelled : Spells parts text) :
    ∀ character ∈ text, Token.isLiteralCharacter character = true := by
  have digits {run : List Char} (decimal : ∀ character ∈ run, character.isDigit = true) :
      ∀ character ∈ run, Token.isLiteralCharacter character = true := fun character member =>
    Token.isLiteralCharacter_of_isDigit (decimal character member)
  have fraction {run front : List Char} (behind : SpellsFraction run front) :
      ∀ character ∈ front, Token.isLiteralCharacter character = true := by
    cases behind with
    | absent => exact nofun
    | present decimal => exact List.forall_mem_cons.mpr ⟨rfl, digits decimal.decimal⟩
  have exponent {value : Option Int} {back : List Char} (scaled : SpellsExponent value back) :
      ∀ character ∈ back, Token.isLiteralCharacter character = true := by
    have marks {mark : Char} (marked : mark = 'e' ∨ mark = 'E') :
        Token.isLiteralCharacter mark = true := by
      rcases marked with rfl | rfl <;> rfl
    cases scaled with
    | absent => exact nofun
    | unsigned marked decimal =>
        exact List.forall_mem_cons.mpr ⟨marks marked, digits decimal.decimal⟩
    | positive marked decimal | negative marked decimal =>
        exact List.forall_mem_cons.mpr ⟨marks marked,
          List.forall_mem_cons.mpr ⟨rfl, digits decimal.decimal⟩⟩
  have unsigned {negative : Bool} {text : List Char}
      (spelled : SpellsUnsigned negative parts text) :
      ∀ character ∈ text, Token.isLiteralCharacter character = true := by
    obtain ⟨integer, behind, scaled⟩ := spelled
    simp only [List.forall_mem_append]
    exact ⟨⟨digits integer.decimal, fraction behind⟩, exponent scaled⟩
  cases spelled with
  | natural spelled => exact unsigned spelled
  | negative spelled => exact List.forall_mem_cons.mpr ⟨rfl, unsigned spelled⟩

/-- A literal begins with a digit or a minus sign. -/
theorem Spells.exists_cons {parts : Parts} {text : List Char} (spelled : Spells parts text) :
    ∃ first rest, text = first :: rest ∧ (first = '-' ∨ first.isDigit = true) := by
  cases spelled with
  | natural spelled =>
      obtain ⟨first, rest, split, digit⟩ := spelled.exists_cons
      exact ⟨first, rest, split, .inr digit⟩
  | negative spelled => exact ⟨'-', _, rfl, .inl rfl⟩

/-- A literal does not begin with a blank. -/
theorem Spells.exists_marked {parts : Parts} {text : List Char} (spelled : Spells parts text) :
    ∃ first rest, text = first :: rest ∧ Token.isBlank first = false := by
  obtain ⟨first, rest, split, begins⟩ := spelled.exists_cons
  refine ⟨first, rest, split, Bool.eq_false_iff.mpr fun blank => ?_⟩
  simp only [Token.isBlank, Bool.or_eq_true, beq_iff_eq] at blank
  rcases blank with ((rfl | rfl) | rfl) | rfl <;> exact absurd begins (by decide)

end Literal

namespace Token

/-- A text that begins like a number is read as a number. -/
theorem next?_literal {first : Char} (begins : first = '-' ∨ first.isDigit = true)
    (rest : List Char) : next? (first :: rest) =
      (Number.ofLiteral? (first :: rest.takeWhile isLiteralCharacter)).map fun value =>
        (.number value, rest.dropWhile isLiteralCharacter) := by
  have apart {mark : Char} (other : ¬(mark = '-' ∨ mark.isDigit = true)) : first ≠ mark := by
    rintro rfl
    exact other begins
  have array : first ≠ '[' := apart (by decide)
  have arrayEnd : first ≠ ']' := apart (by decide)
  have object : first ≠ '\x7b' := apart (by decide)
  have objectEnd : first ≠ '\x7d' := apart (by decide)
  have comma : first ≠ ',' := apart (by decide)
  have colon : first ≠ ':' := apart (by decide)
  have quote : first ≠ '"' := apart (by decide)
  rw [next?.eq_11 first rest array arrayEnd object objectEnd comma colon
    (fun _ same => absurd same (apart (by decide))) (fun _ same => absurd same (apart (by decide)))
    (fun _ same => absurd same (apart (by decide))) quote, if_pos begins]

/-- What is left behind the characters that are kept begins with none of them. -/
theorem stops_dropWhile (keep : Char → Bool) (text : List Char) :
    Grammar.Stops keep (text.dropWhile keep) := by
  intro character first
  have apart := List.head?_dropWhile_not keep text
  rwa [first] at apart

/-- What is read as a token is written so, and nothing behind it continues it. -/
theorem isWritten_of_next? {text rest : List Char} {token : Token}
    (read : next? text = some (token, rest)) :
    ∃ front, text = front ++ rest ∧ token.IsWritten front ∧ token.EndsBefore rest := by
  unfold next? at read
  split at read
  case h_10 others =>
    obtain ⟨⟨characters, after⟩, unquoted, same⟩ := Option.map_eq_some_iff.mp read
    obtain ⟨front, pieces, rfl, spelled, known⟩ := Quoted.unquote?_eq_some_iff.mp unquoted
    cases same
    exact ⟨'"' :: front ++ ['"'], by simp, .string spelled known, trivial⟩
  case h_11 first others _ _ _ _ _ _ _ _ _ _ =>
    split at read
    · obtain ⟨value, known, same⟩ := Option.map_eq_some_iff.mp read
      obtain ⟨parts, spelled, known⟩ := Number.ofLiteral?_eq_some_iff.mp known
      cases same
      refine ⟨_, ?_, .number spelled known, stops_dropWhile isLiteralCharacter others⟩
      rw [List.cons_append, List.takeWhile_append_dropWhile]
    · cases read
  case h_12 => cases read
  all_goals
    cases read
    exact ⟨_, rfl, .fixed _ trivial, trivial⟩

/-- A token is read back from the characters that it is written as. -/
theorem IsWritten.next?_append {token : Token} {front rest : List Char}
    (written : token.IsWritten front) (ends : token.EndsBefore rest) :
    next? (front ++ rest) = some (token, rest) := by
  cases written with
  | fixed token fixed =>
      cases token with
      | bool flag => cases flag <;> rfl
      | string text => exact absurd fixed id
      | number value => exact absurd fixed id
      | _ => rfl
  | string spelled known =>
      rename_i pieces text joined
      have quoted : '"' :: text ++ ['"'] ++ rest = '"' :: (text ++ '"' :: rest) := by simp
      have unquoted : Quoted.unquote? (text ++ '"' :: rest) = some (joined, rest) :=
        Quoted.unquote?_eq_some_iff.mpr ⟨text, pieces, rfl, spelled, known⟩
      rw [quoted, next?.eq_10, unquoted, Option.map_some]
  | number spelled known =>
      obtain ⟨first, others, rfl, begins⟩ := spelled.exists_cons
      obtain ⟨taken, left⟩ := Grammar.span_append (fun character member =>
        spelled.isLiteralCharacter character (List.mem_cons_of_mem first member)) ends
      rw [List.cons_append, next?_literal begins, taken, left,
        Number.ofLiteral?_eq_some_iff.mpr ⟨_, spelled, known⟩, Option.map_some]

/-- A written token does not begin with a blank. -/
theorem IsWritten.exists_cons {token : Token} {text : List Char} (written : token.IsWritten text) :
    ∃ first rest, text = first :: rest ∧ isBlank first = false := by
  cases written with
  | fixed token fixed =>
      cases token with
      | bool flag => cases flag <;> exact ⟨_, _, rfl, rfl⟩
      | string text => exact absurd fixed id
      | number value => exact absurd fixed id
      | _ => exact ⟨_, _, rfl, rfl⟩
  | string => exact ⟨_, _, rfl, rfl⟩
  | number spelled => exact spelled.exists_marked

/-- Whether a token is read back from its characters. Doubles are left aside. -/
def IsExact : Token → Prop
  | .number value => value.isInteger = true
  | _ => True

/-- The characters of a token are one way to write it. -/
theorem isWritten_characters {token : Token} (exact : token.IsExact) :
    token.IsWritten token.characters := by
  cases token with
  | string text =>
      have written := IsWritten.string (Quoted.spells_escape text.toList)
        (Quoted.join?_pieces text.toList)
      rwa [String.ofList_toList] at written
  | number value =>
      cases value with
      | double value => exact absurd exact Bool.false_ne_true
      | integer value inRange =>
          obtain ⟨parts, spelled, known⟩ :=
            Number.ofLiteral?_eq_some_iff.mp (Number.ofLiteral?_ofInt inRange)
          exact .number spelled known
  | _ => exact .fixed _ trivial

end Token

namespace Lexeme

/-- How a lexeme is written: as the token that it is, or in the form of a string or of a number, if
the pieces do not join or the number is too large. -/
inductive IsWritten : Lexeme → List Char → Prop where
  | token {token : Token} {text : List Char} (written : token.IsWritten text) :
      IsWritten (.token token) text
  | brokenString {pieces : List Quoted.Piece} {text : List Char}
      (spelled : Quoted.Spells pieces text) (unknown : Quoted.join? pieces = none) :
      IsWritten .brokenString ('"' :: text ++ ['"'])
  | hugeNumber {parts : Literal.Parts} {text : List Char} (spelled : Literal.Spells parts text)
      (unknown : parts.number? = none) : IsWritten .hugeNumber text

/-- Whether a text may follow a lexeme: behind a number, nothing that continues it. -/
def EndsBefore (lexeme : Lexeme) (rest : List Char) : Prop :=
  match lexeme with
  | .token known => known.EndsBefore rest
  | .brokenString => True
  | .hugeNumber => Grammar.Stops Token.isLiteralCharacter rest

/-- What is read as no token, but for its form, is written as a lexeme without a value. -/
theorem isWritten_of_form? {text rest : List Char} {lexeme : Lexeme}
    (unread : Token.next? text = none) (read : form? text = some (lexeme, rest)) :
    ∃ front, text = front ++ rest ∧ lexeme.IsWritten front ∧ lexeme.EndsBefore rest := by
  unfold form? at read
  split at read
  · rename_i others
    obtain ⟨⟨pieces, after⟩, found, same⟩ := Option.map_eq_some_iff.mp read
    obtain ⟨front, rfl, spelled⟩ := Quoted.pieces?_eq_some_iff.mp found
    cases same
    refine ⟨'"' :: front ++ ['"'], by simp, .brokenString spelled ?_, trivial⟩
    cases known : Quoted.join? pieces with
    | none => rfl
    | some joined =>
        have string := @Token.IsWritten.next?_append _ _ rest (.string spelled known) trivial
        rw [List.append_assoc, List.cons_append, List.singleton_append] at string
        exact absurd (unread.symm.trans string) (Option.some_ne_none _).symm
  · rename_i first others _
    obtain ⟨parts, found, same⟩ := Option.map_eq_some_iff.mp read
    have spelled := Literal.parts?_eq_some_iff.mp found
    have stops := Token.stops_dropWhile Token.isLiteralCharacter others
    have whole : first :: others = (first :: others.takeWhile Token.isLiteralCharacter) ++
        others.dropWhile Token.isLiteralCharacter := by
      rw [List.cons_append, List.takeWhile_append_dropWhile]
    cases same
    refine ⟨_, whole, .hugeNumber spelled ?_, stops⟩
    cases known : parts.number? with
    | none => rfl
    | some value =>
        have number := (Token.IsWritten.number spelled known).next?_append stops
        rw [← whole] at number
        exact absurd (unread.symm.trans number) (Option.some_ne_none _).symm
  · cases read

/-- What is read as a lexeme is written so, and nothing behind it continues it. -/
theorem isWritten_of_next? {text rest : List Char} {lexeme : Lexeme}
    (read : next? text = some (lexeme, rest)) :
    ∃ front, text = front ++ rest ∧ lexeme.IsWritten front ∧ lexeme.EndsBefore rest := by
  unfold next? at read
  split at read
  · rename_i found
    cases read
    obtain ⟨front, split, written, ends⟩ := Token.isWritten_of_next? found
    exact ⟨front, split, .token written, ends⟩
  · exact isWritten_of_form? ‹_› read

/-- A lexeme is read back from the characters that it is written as. -/
theorem IsWritten.next?_append {lexeme : Lexeme} {front rest : List Char}
    (written : lexeme.IsWritten front) (ends : lexeme.EndsBefore rest) :
    next? (front ++ rest) = some (lexeme, rest) := by
  cases written with
  | token written => rw [next?, written.next?_append ends]
  | @brokenString pieces text spelled unknown =>
      have quoted : '"' :: text ++ ['"'] ++ rest = '"' :: (text ++ '"' :: rest) := by simp
      have found : Quoted.pieces? (text ++ '"' :: rest) = some (pieces, rest) :=
        Quoted.pieces?_eq_some_iff.mpr ⟨text, rfl, spelled⟩
      have unquoted : Quoted.unquote? (text ++ '"' :: rest) = none := by
        simp [Quoted.unquote?, found, unknown]
      rw [quoted, next?, Token.next?.eq_10, unquoted, Option.map_none, form?, found]
      rfl
  | @hugeNumber parts text spelled unknown =>
      have found := Literal.parts?_eq_some_iff.mpr spelled
      obtain ⟨first, others, rfl, begins⟩ := spelled.exists_cons
      obtain ⟨taken, left⟩ := Grammar.span_append (fun character member =>
        spelled.isLiteralCharacter character (List.mem_cons_of_mem first member)) ends
      have unread : Number.ofLiteral? (first :: others) = none := by
        simp [Number.ofLiteral?, found, unknown]
      have apart : first ≠ '"' := by
        rintro rfl
        exact absurd begins (by decide)
      rw [List.cons_append, next?, Token.next?_literal begins, taken, unread, Option.map_none,
        form?.eq_2 _ _ apart, taken, left, found]
      rfl

/-- A written lexeme does not begin with a blank. -/
theorem IsWritten.exists_cons {lexeme : Lexeme} {text : List Char}
    (written : lexeme.IsWritten text) :
    ∃ first rest, text = first :: rest ∧ Token.isBlank first = false := by
  cases written with
  | token written => exact written.exists_cons
  | brokenString => exact ⟨_, _, rfl, rfl⟩
  | hugeNumber spelled => exact spelled.exists_marked

/-- Whether a text is made of written lexemes, with blanks between them, so that no number runs into
what follows. -/
inductive Spells : List Lexeme → List Char → Prop where
  | nil : Spells [] []
  | blank {lexemes : List Lexeme} {character : Char} {text : List Char}
      (white : Token.isBlank character = true) (spells : Spells lexemes text) :
      Spells lexemes (character :: text)
  | written {lexeme : Lexeme} {lexemes : List Lexeme} {front text : List Char}
      (written : lexeme.IsWritten front) (ends : lexeme.EndsBefore text)
      (spells : Spells lexemes text) : Spells (lexeme :: lexemes) (front ++ text)

/-- A token may be written as its characters. -/
theorem Spells.token (token : Token) {lexemes : List Lexeme} {text : List Char}
    (exact : token.IsExact) (ends : token.EndsBefore text) (spells : Spells lexemes text) :
    Spells (.token token :: lexemes) (token.characters ++ text) :=
  .written (.token (Token.isWritten_characters exact)) ends spells

/-- A text is read as the lexemes that it spells. -/
theorem Spells.all?_eq {lexemes : List Lexeme} {text : List Char} (spells : Spells lexemes text) :
    all? text = some lexemes := by
  induction spells with
  | nil => exact all?.eq_1
  | blank white _ ih => rw [all?.eq_2, if_pos white, ih]
  | @written lexeme lexemes front text written ends _ ih =>
      have read := written.next?_append ends
      obtain ⟨first, others, rfl, marked⟩ := written.exists_cons
      rw [List.cons_append] at read ⊢
      rw [all?.eq_2, if_neg (Bool.eq_false_iff.mp marked)]
      split
      · rename_i unread
        exact absurd (read.symm.trans unread) (Option.some_ne_none _)
      · rename_i other after found
        obtain ⟨rfl, rfl⟩ := Prod.mk.inj (Option.some.inj (read.symm.trans found))
        rw [ih, Option.map_some]

/-- **A text is read as lexemes exactly if it spells them.** -/
theorem all?_eq_some_iff {text : List Char} {lexemes : List Lexeme} :
    all? text = some lexemes ↔ Spells lexemes text := by
  refine ⟨fun read => ?_, Spells.all?_eq⟩
  fun_induction all? text generalizing lexemes with
  | case1 =>
      cases read
      exact .nil
  | case2 first rest white ih => exact .blank white (ih read)
  | case3 => cases read
  | case4 first rest marked lexeme after next ih =>
      obtain ⟨others, later, rfl⟩ := Option.map_eq_some_iff.mp read
      obtain ⟨front, split, written, ends⟩ := isWritten_of_next? next
      rw [split]
      exact .written written ends (ih later)

/-- Lexemes that are all tokens are those of a list of tokens. -/
theorem all_isToken {lexemes : List Lexeme} :
    lexemes.all isToken = true ↔ ∃ tokens : List Token, lexemes = tokens.map .token := by
  constructor
  · intro known
    induction lexemes with
    | nil => exact ⟨[], rfl⟩
    | cons lexeme rest ih =>
        obtain ⟨first, later⟩ := Bool.and_eq_true_iff.mp known
        obtain ⟨tokens, rfl⟩ := ih later
        cases lexeme with
        | token front => exact ⟨front :: tokens, rfl⟩
        | brokenString | hugeNumber => cases first
  · rintro ⟨tokens, rfl⟩
    rw [List.all_map]
    exact List.all_eq_true.mpr fun _ _ => rfl

end Lexeme

namespace Json

/-- Whether a text is made of written tokens. -/
def Spells (tokens : List Token) (text : List Char) : Prop :=
  Lexeme.Spells (tokens.map .token) text

namespace Spells

variable {tokens : List Token} {text : List Char}

theorem nil : Spells [] [] :=
  Lexeme.Spells.nil

theorem blank {character : Char} (white : Token.isBlank character = true)
    (spells : Spells tokens text) : Spells tokens (character :: text) :=
  Lexeme.Spells.blank white spells

/-- A token in front of a text is spelled first, if it ends there. -/
theorem token (token : Token) (exact : token.IsExact) (ends : token.EndsBefore text)
    (spells : Spells tokens text) : Spells (token :: tokens) (token.characters ++ text) :=
  Lexeme.Spells.token token exact ends spells

end Spells

/-- Whether a value holds no doubles. -/
def IsExact (json : Json) : Prop :=
  ∀ token ∈ json.tokens, token.IsExact

/-- The tokens of items are commas and those of each item. -/
theorem mem_itemTokens {items : List Json} {token : Token} (member : token ∈ itemTokens items) :
    token = .comma ∨ ∃ item ∈ items, token ∈ item.tokens := by
  induction items with
  | nil => exact absurd member List.not_mem_nil
  | cons item rest ih =>
      cases rest with
      | nil => exact .inr ⟨item, List.mem_cons_self, member⟩
      | cons next rest =>
          rw [itemTokens.eq_3 _ _ (List.cons_ne_nil next rest)] at member
          rcases List.mem_append.mp member with first | later
          · exact .inr ⟨item, List.mem_cons_self, first⟩
          · rcases List.mem_cons.mp later with same | later
            · exact .inl same
            · exact (ih later).imp_right fun ⟨other, inside, found⟩ =>
                ⟨other, List.mem_cons_of_mem item inside, found⟩

/-- The tokens of members are commas, colons, keys and those of each value. -/
theorem mem_memberTokens {members : List (String × Json)} {token : Token}
    (found : token ∈ memberTokens members) : token = .comma ∨ token = .colon ∨
      ∃ member ∈ members, token = .string member.1 ∨ token ∈ member.2.tokens := by
  induction members with
  | nil => exact absurd found List.not_mem_nil
  | cons member rest ih =>
      obtain ⟨key, value⟩ := member
      cases rest with
      | nil =>
          simp only [memberTokens, List.mem_cons] at found
          rcases found with same | same | inside
          · exact .inr (.inr ⟨(key, value), List.mem_cons_self, .inl same⟩)
          · exact .inr (.inl same)
          · exact .inr (.inr ⟨(key, value), List.mem_cons_self, .inr inside⟩)
      | cons next rest =>
          rw [memberTokens.eq_3 _ _ _ (List.cons_ne_nil next rest)] at found
          simp only [List.cons_append, List.mem_cons, List.mem_append] at found
          rcases found with same | same | inside | same | later
          · exact .inr (.inr ⟨(key, value), List.mem_cons_self, .inl same⟩)
          · exact .inr (.inl same)
          · exact .inr (.inr ⟨(key, value), List.mem_cons_self, .inr inside⟩)
          · exact .inl same
          · exact (ih later).imp_right fun others => others.imp_right fun ⟨other, inside, found⟩ =>
              ⟨other, List.mem_cons_of_mem _ inside, found⟩

/-- An array holds no doubles if its items hold none. -/
theorem isExact_array {items : List Json} (each : ∀ item ∈ items, item.IsExact) :
    (array items).IsExact := by
  intro token member
  simp only [tokens, List.cons_append, List.mem_cons, List.mem_append, List.not_mem_nil,
    or_false] at member
  rcases member with rfl | inside | rfl
  · trivial
  · rcases mem_itemTokens inside with rfl | ⟨item, given, found⟩
    · trivial
    · exact each item given token found
  · trivial

/-- An object holds no doubles if its values hold none. -/
theorem isExact_object {members : List (String × Json)}
    (each : ∀ member ∈ members, member.2.IsExact) : (object members).IsExact := by
  intro token member
  simp only [tokens, List.cons_append, List.mem_cons, List.mem_append, List.not_mem_nil,
    or_false] at member
  rcases member with rfl | inside | rfl
  · trivial
  · rcases mem_memberTokens inside with rfl | rfl | ⟨other, given, rfl | found⟩
    · trivial
    · trivial
    · trivial
    · exact each other given token found
  · trivial

theorem isExact_string (text : String) : (string text).IsExact := by
  intro token member
  rw [List.mem_singleton.mp member]
  trivial

theorem isExact_bool (flag : Bool) : (bool flag).IsExact := by
  intro token member
  rw [List.mem_singleton.mp member]
  trivial

theorem isExact_number {value : Number} (integer : value.isInteger = true) :
    (number value).IsExact := by
  intro token member
  rw [List.mem_singleton.mp member]
  exact integer

/-- The text of a list of tokens without blanks. -/
def textOf (tokens : List Token) : List Char :=
  tokens.flatMap Token.characters

section Writing

theorem stops_mark {mark : Char} (marked : Token.isLiteralCharacter mark = false)
    (rest : List Char) : Grammar.Stops Token.isLiteralCharacter (mark :: rest) :=
  Grammar.stops_cons marked

mutual

/-- The text of a value spells its tokens, whatever is spelled behind it. -/
theorem spells_tokens : (json : Json) → json.IsExact →
    ∀ {others : List Token} {rest : List Char}, Spells others rest →
      Grammar.Stops Token.isLiteralCharacter rest →
        Spells (json.tokens ++ others) (textOf json.tokens ++ rest)
  | .null, _, _, _, spells, _ => .token .null trivial trivial spells
  | .bool flag, _, _, _, spells, _ => by
      simpa [tokens, textOf] using Spells.token (.bool flag) trivial trivial spells
  | .number value, exact, _, _, spells, stops => by
      have integer : (Token.number value).IsExact := exact _ List.mem_cons_self
      simpa [tokens, textOf] using Spells.token (.number value) integer stops spells
  | .string text, _, _, _, spells, _ => by
      simpa [tokens, textOf] using Spells.token (.string text) trivial trivial spells
  | .array items, exact, _, rest, spells, _ => by
      have inside : ∀ token ∈ itemTokens items, token.IsExact := fun token member =>
        exact token (by simp [tokens, member])
      have closed := Spells.token .closeArray trivial trivial spells
      have opened := Spells.token .openArray trivial trivial
        (spells_items items inside closed (stops_mark rfl rest))
      simpa [tokens, textOf] using opened
  | .object members, exact, _, rest, spells, _ => by
      have inside : ∀ token ∈ memberTokens members, token.IsExact := fun token member =>
        exact token (by simp [tokens, member])
      have closed := Spells.token .closeObject trivial trivial spells
      have opened := Spells.token .openObject trivial trivial
        (spells_members members inside closed (stops_mark rfl rest))
      simpa [tokens, textOf] using opened

/-- The text of items spells their tokens, whatever is spelled behind it. -/
theorem spells_items : (items : List Json) → (∀ token ∈ itemTokens items, token.IsExact) →
    ∀ {others : List Token} {rest : List Char}, Spells others rest →
      Grammar.Stops Token.isLiteralCharacter rest →
        Spells (itemTokens items ++ others) (textOf (itemTokens items) ++ rest)
  | [], _, _, _, spells, _ => spells
  | [item], exact, _, _, spells, stops => spells_tokens item exact spells stops
  | item :: next :: items, exact, _, rest, spells, stops => by
      have first : item.IsExact := fun token member => exact token (by simp [itemTokens, member])
      have later : ∀ token ∈ itemTokens (next :: items), token.IsExact := fun token member =>
        exact token (by simp [itemTokens, member])
      have apart := Spells.token .comma trivial trivial
        (spells_items (next :: items) later spells stops)
      simpa [itemTokens, textOf] using spells_tokens item first apart (stops_mark rfl _)

/-- The text of members spells their tokens, whatever is spelled behind it. -/
theorem spells_members : (members : List (String × Json)) →
    (∀ token ∈ memberTokens members, token.IsExact) →
    ∀ {others : List Token} {rest : List Char}, Spells others rest →
      Grammar.Stops Token.isLiteralCharacter rest →
        Spells (memberTokens members ++ others) (textOf (memberTokens members) ++ rest)
  | [], _, _, _, spells, _ => spells
  | [(key, value)], exact, _, _, spells, stops => by
      have first : value.IsExact := fun token member => exact token (by simp [memberTokens, member])
      have named := Spells.token (.string key) trivial trivial
        (Spells.token .colon trivial trivial (spells_tokens value first spells stops))
      simpa [memberTokens, textOf] using named
  | (key, value) :: next :: members, exact, _, rest, spells, stops => by
      have first : value.IsExact := fun token member => exact token (by simp [memberTokens, member])
      have later : ∀ token ∈ memberTokens (next :: members), token.IsExact := fun token member =>
        exact token (by simp [memberTokens, member])
      have apart := Spells.token .comma trivial trivial
        (spells_members (next :: members) later spells stops)
      have named := Spells.token (.string key) trivial trivial
        (Spells.token .colon trivial trivial (spells_tokens value first apart (stops_mark rfl _)))
      simpa [memberTokens, textOf] using named

end

end Writing

/-- Whether a text is written for a value: it is made of the tokens of the value, with blanks
between them. -/
def IsWrittenAs (json : Json) (text : String) : Prop :=
  Spells json.tokens text.toList

/-- A value without doubles may be written as its compact text. -/
theorem isWrittenAs_compact {json : Json} (exact : json.IsExact) :
    json.IsWrittenAs json.compact := by
  have spelled := spells_tokens json exact .nil fun _ none => nomatch none
  rw [List.append_nil, List.append_nil] at spelled
  rwa [IsWrittenAs, compact, String.toList_ofList]

end Json

end CatalogSearch
