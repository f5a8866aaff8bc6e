import CatalogSearch.Text.Utf8
import Mathlib.Tactic.IntervalCases

/-!
# Reading back bytes

The bytes of a character are read as the character, whatever follows
(`Utf8.pieces_utf8EncodeChar_append`). So the bytes of a text are decoded to the text
(`Utf8.decode?_encode`).
-/

namespace CatalogSearch

namespace Utf8

section Start

variable {bits : Nat}

theorem start_of_two (least : 2 ≤ bits) (most : bits < 32) :
    start (bits + 192) = .begun ⟨bits, 1, 128, 191⟩ := by
  interval_cases bits <;> rfl

/-- The second byte is bounded where the bits would fit fewer bytes or give a surrogate. -/
theorem start_of_three (most : bits < 16) : start (bits + 224) =
    .begun ⟨bits, 2, if bits = 0 then 160 else 128, if bits = 13 then 159 else 191⟩ := by
  interval_cases bits <;> rfl

/-- The second byte is bounded where the bits would fit fewer bytes or give no character. -/
theorem start_of_four (most : bits < 5) : start (bits + 240) =
    .begun ⟨bits, 3, if bits = 0 then 144 else 128, if bits = 4 then 143 else 191⟩ := by
  interval_cases bits <;> rfl

end Start

section Pieces

variable {byte : Nat} {rest : List UInt8} {begun : Begun}

/-- A byte below 128 is a character. -/
theorem pieces_of_character (small : byte < 128) :
    pieces none (UInt8.ofNat byte :: rest) = some (Char.ofNat byte) :: pieces none rest := by
  have value : (UInt8.ofNat byte).toNat = byte :=
    UInt8.toNat_ofNat_of_lt' (show byte < 256 by omega)
  have first : start byte = .character byte := if_pos small
  rw [pieces, byteStep, startPieces, value, first]
  rfl

/-- A byte that begins a character leaves the rest of it to the bytes that follow. -/
theorem pieces_of_begun (small : byte < 256) (first : start byte = .begun begun) :
    pieces none (UInt8.ofNat byte :: rest) = pieces (some begun) rest := by
  have value : (UInt8.ofNat byte).toNat = byte := UInt8.toNat_ofNat_of_lt' small
  rw [pieces, byteStep, startPieces, value, first]
  rfl

variable {bits low least greatest : Nat}

/-- A byte within the bounds goes on with a character. It adds six bits. -/
theorem pieces_of_within {missing : Nat} (small : low < 64) (above : least ≤ low + 128)
    (below : low + 128 ≤ greatest) :
    pieces (some ⟨bits, missing + 2, least, greatest⟩) (UInt8.ofNat (low + 128) :: rest) =
      pieces (some ⟨64 * bits + low, missing + 1, 128, 191⟩) rest := by
  have value : (UInt8.ofNat (low + 128)).toNat = low + 128 :=
    UInt8.toNat_ofNat_of_lt' (show low + 128 < 256 by omega)
  have more : ¬ missing + 2 ≤ 1 := by omega
  rw [pieces, byteStep, value, if_pos ⟨above, below⟩, Nat.add_sub_cancel]
  simp only [more, if_false, List.nil_append]
  rfl

/-- The last byte completes a character. -/
theorem pieces_of_last (small : low < 64) (above : least ≤ low + 128)
    (below : low + 128 ≤ greatest) :
    pieces (some ⟨bits, 1, least, greatest⟩) (UInt8.ofNat (low + 128) :: rest) =
      some (Char.ofNat (64 * bits + low)) :: pieces none rest := by
  have value : (UInt8.ofNat (low + 128)).toNat = low + 128 :=
    UInt8.toNat_ofNat_of_lt' (show low + 128 < 256 by omega)
  rw [pieces, byteStep, value, if_pos ⟨above, below⟩, Nat.add_sub_cancel]
  rfl

end Pieces

/-- The bytes of a character are read as the character. -/
theorem pieces_utf8EncodeChar_append (character : Char) (rest : List UInt8) :
    pieces none (String.utf8EncodeChar character ++ rest) = some character :: pieces none rest := by
  have valid : character.toNat < 55296 ∨ 57343 < character.toNat ∧ character.toNat < 1114112 :=
    character.valid
  have value : character.val.toNat = character.toNat := rfl
  have code : Char.ofNat character.toNat = character := Char.ofNat_toNat character
  unfold String.utf8EncodeChar
  simp only [value]
  generalize character.toNat = number at *
  rw [← code]
  by_cases one : number ≤ 127
  · rw [if_pos one]
    exact pieces_of_character (by omega)
  by_cases two : number ≤ 2047
  · have whole : 64 * (number / 64 % 32) + number % 64 = number := by omega
    rw [if_neg one, if_pos two]
    refine (pieces_of_begun (by omega) (start_of_two (by omega) (by omega))).trans ?_
    refine (pieces_of_last (by omega) (by omega) (by omega)).trans ?_
    rw [whole]
    rfl
  by_cases three : number ≤ 65535
  · have whole : 64 * (64 * (number / 4096 % 16) + number / 64 % 64) + number % 64 = number := by
      omega
    rw [if_neg one, if_neg two, if_pos three]
    refine (pieces_of_begun (by omega) (start_of_three (by omega))).trans ?_
    refine (pieces_of_within (by omega) (by split <;> omega) (by split <;> omega)).trans ?_
    refine (pieces_of_last (by omega) (by omega) (by omega)).trans ?_
    rw [whole]
    rfl
  · have whole : 64 * (64 * (64 * (number / 262144 % 8) + number / 4096 % 64) +
        number / 64 % 64) + number % 64 = number := by
      omega
    rw [if_neg one, if_neg two, if_neg three]
    refine (pieces_of_begun (by omega) (start_of_four (by omega))).trans ?_
    refine (pieces_of_within (by omega) (by split <;> omega) (by split <;> omega)).trans ?_
    refine (pieces_of_within (by omega) (by omega) (by omega)).trans ?_
    refine (pieces_of_last (by omega) (by omega) (by omega)).trans ?_
    rw [whole]
    rfl

/-- The bytes of characters are read as the characters. -/
theorem pieces_flatMap_utf8EncodeChar (characters : List Char) :
    pieces none (characters.flatMap String.utf8EncodeChar) = characters.map some := by
  induction characters with
  | nil => rfl
  | cons character rest ih =>
      rw [List.flatMap_cons, pieces_utf8EncodeChar_append, ih, List.map_cons]

/-- The bytes of a text. -/
def encode (text : String) : List UInt8 :=
  text.toList.flatMap String.utf8EncodeChar

/-- A text is decoded from its bytes. -/
theorem decode?_encode (text : String) : decode? (encode text) = some text := by
  have whole (characters : List Char) : (characters.map some).mapM id = some characters := by
    rw [List.mapM_map]
    exact List.mapM_pure.trans (congrArg some (List.map_id characters))
  rw [decode?, encode, pieces_flatMap_utf8EncodeChar, whole, Option.map_some, String.ofList_toList]

end Utf8

end CatalogSearch
