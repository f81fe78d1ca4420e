/-!
# Blank characters

The characters with the Unicode property White_Space, and trimming by them.
-/

namespace ExpiringCache

namespace Blank

/-- The ranges of code points with the property White_Space. -/
def ranges : List (Nat × Nat) := [
  (0x0009, 0x000D), (0x0020, 0x0020), (0x0085, 0x0085), (0x00A0, 0x00A0),
  (0x1680, 0x1680), (0x2000, 0x200A), (0x2028, 0x2029), (0x202F, 0x202F),
  (0x205F, 0x205F), (0x3000, 0x3000)]

def isBlank (char : Char) : Bool :=
  ranges.any fun (first, last) => first ≤ char.toNat ∧ char.toNat ≤ last

def trim (text : List Char) : List Char :=
  ((text.dropWhile isBlank).reverse.dropWhile isBlank).reverse

end Blank

end ExpiringCache
