/-!
# Blank characters

The characters with the Unicode property White_Space.
-/

namespace CatalogSearch

namespace Text

/-- The closed ranges of the blank code points, ascending and apart. -/
def blankRanges : List (Nat × Nat) :=
  [(0x9, 0xD), (0x20, 0x20), (0x85, 0x85), (0xA0, 0xA0), (0x1680, 0x1680), (0x2000, 0x200A),
   (0x2028, 0x2029), (0x202F, 0x202F), (0x205F, 0x205F), (0x3000, 0x3000)]

/-- Whether a character is white space. -/
def isBlank (character : Char) : Bool :=
  blankRanges.any fun (low, high) => low ≤ character.toNat && character.toNat ≤ high

end Text

end CatalogSearch
