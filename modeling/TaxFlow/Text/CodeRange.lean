/-!
# Ranges of code points

Tables of character properties are arrays of closed ranges of code points.
-/
namespace TaxFlow.Text

/-- Whether a code point lies in one of the ranges. -/
def inRanges (table : Array (Nat × Nat)) (n : Nat) : Bool :=
  table.any fun r => r.1 ≤ n && n ≤ r.2

def isAscii (c : Char) : Bool := c.toNat < 0x80

end TaxFlow.Text
