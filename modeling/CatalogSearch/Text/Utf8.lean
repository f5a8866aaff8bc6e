/-!
# Texts from bytes

Texts are kept and sent as bytes in the encoding UTF-8. Bytes are read as pieces: a character, or
the longest beginning of one that breaks off, or a byte that begins none. They encode a text if all
pieces are characters.
-/

namespace CatalogSearch

namespace Utf8

/-- A character that has begun: the bits read so far, the number of bytes that are missing, and the
bounds of the next one. -/
structure Begun where
  bits : Nat
  missing : Nat
  least : Nat
  greatest : Nat

/-- What a byte at the beginning of a character does. -/
inductive Start where
  | character (code : Nat)
  | begun (begun : Begun)
  | malformed

/-- Classifies the first byte of a character. Encodings that are longer than necessary, surrogates
and codes past the last one are excluded by the bounds of the second byte. -/
def start (byte : Nat) : Start :=
  if byte < 0x80 then .character byte
  else if byte < 0xC2 then .malformed
  else if byte < 0xE0 then .begun ⟨byte - 0xC0, 1, 0x80, 0xBF⟩
  else if byte = 0xE0 then .begun ⟨0, 2, 0xA0, 0xBF⟩
  else if byte = 0xED then .begun ⟨0xD, 2, 0x80, 0x9F⟩
  else if byte < 0xF0 then .begun ⟨byte - 0xE0, 2, 0x80, 0xBF⟩
  else if byte = 0xF0 then .begun ⟨0, 3, 0x90, 0xBF⟩
  else if byte < 0xF4 then .begun ⟨byte - 0xF0, 3, 0x80, 0xBF⟩
  else if byte = 0xF4 then .begun ⟨4, 3, 0x80, 0x8F⟩
  else .malformed

/-- The pieces of a byte at the beginning of a character, and what it leaves begun. -/
def startPieces (byte : Nat) : List (Option Char) × Option Begun :=
  match start byte with
  | .character code => ([some (Char.ofNat code)], none)
  | .begun begun => ([], some begun)
  | .malformed => ([none], none)

/-- The pieces that a byte completes, and what it leaves begun. -/
def byteStep (state : Option Begun) (byte : Nat) : List (Option Char) × Option Begun :=
  match state with
  | none => startPieces byte
  | some begun =>
      if begun.least ≤ byte ∧ byte ≤ begun.greatest then
        let bits := 64 * begun.bits + (byte - 0x80)
        if begun.missing ≤ 1 then ([some (Char.ofNat bits)], none)
        else ([], some ⟨bits, begun.missing - 1, 0x80, 0xBF⟩)
      else
        let (pieces, next) := startPieces byte
        (none :: pieces, next)

/-- The characters of a sequence of bytes, and nothing in place of every piece that is none. -/
def pieces (state : Option Begun) : List UInt8 → List (Option Char)
  | [] => if state.isSome then [none] else []
  | byte :: rest =>
      let (completed, next) := byteStep state byte.toNat
      completed ++ pieces next rest

/-- The text that bytes encode, if they encode one. -/
def decode? (bytes : List UInt8) : Option String :=
  ((pieces none bytes).mapM id).map String.ofList

end Utf8

end CatalogSearch
