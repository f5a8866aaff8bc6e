/-!
# Percent encoding

Letters, digits and the four marks `-`, `_`, `.` and `~` stand for themselves. Of every other
character each byte is written as a percent sign and two hexadecimal digits.
-/

namespace CatalogSearch

namespace PercentEncoding

/-- Whether a byte stands for itself. -/
def isUnreserved (byte : UInt8) : Bool :=
  let code := byte.toNat
  (48 ≤ code && code ≤ 57) || (65 ≤ code && code ≤ 90) || (97 ≤ code && code ≤ 122) ||
    code == 45 || code == 46 || code == 95 || code == 126

/-- A hexadecimal digit, as an upper-case letter from ten on. -/
def hexDigit (value : Nat) : Char :=
  if value < 10 then Char.ofNat (48 + value) else Char.ofNat (55 + value)

/-- A byte as it is written: as itself if it is unreserved, or by two hexadecimal digits. -/
def encodeByte (byte : UInt8) : List Char :=
  if isUnreserved byte then [Char.ofNat byte.toNat]
  else ['%', hexDigit (byte.toNat / 16), hexDigit (byte.toNat % 16)]

/-- A text as it is written, byte by byte. -/
def encode (text : String) : List Char :=
  text.toList.flatMap fun character => (String.utf8EncodeChar character).flatMap encodeByte

end PercentEncoding

end CatalogSearch
