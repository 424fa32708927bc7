/-!
# Sets of characters

A set of characters is written as a list of ranges of code points, ends included.
-/

namespace DocStore.Text

def inRanges (ranges : List (Nat × Nat)) (c : Char) : Bool :=
  ranges.any fun r => r.1 ≤ c.toNat && c.toNat ≤ r.2

end DocStore.Text
