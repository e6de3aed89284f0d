/-!
# Character properties as ranges

A property of characters is a list of inclusive ranges of code points, in
ascending order.
-/

namespace RobotsExclusion.Text

def inRanges (ranges : List (Nat × Nat)) (c : Char) : Bool :=
  ranges.any fun range => range.1 ≤ c.toNat && c.toNat ≤ range.2

end RobotsExclusion.Text
