/-!
# Tables of character ranges

A property of characters that no rule produces is given as a list of ranges of code
points, first and last included.
-/

namespace ScriptGateway.Text

/-- Whether the code point of `c` lies in one of the ranges. -/
def inRanges (table : List (Nat × Nat)) (c : Char) : Bool :=
  table.any fun (low, high) => low ≤ c.toNat && c.toNat ≤ high

end ScriptGateway.Text
