/-! White space as the Unicode property `White_Space` has it, and text without it at its ends. -/

namespace CecBus.Text

/-- The code points of the property `White_Space`, as ascending inclusive ranges. -/
def blankRanges : List (Nat × Nat) := [(0x9, 0xD), (0x20, 0x20), (0x85, 0x85), (0xA0, 0xA0),
  (0x1680, 0x1680), (0x2000, 0x200A), (0x2028, 0x2029), (0x202F, 0x202F), (0x205F, 0x205F),
  (0x3000, 0x3000)]

def isBlank (c : Char) : Bool := blankRanges.any fun (low, high) => low ≤ c.toNat && c.toNat ≤ high

def dropEndWhile (p : Char → Bool) (text : List Char) : List Char :=
  (text.reverse.dropWhile p).reverse

def trim (text : List Char) : List Char := dropEndWhile isBlank (text.dropWhile isBlank)

end CecBus.Text
