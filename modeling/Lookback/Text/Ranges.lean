/-!
Sets of characters given by ranges of code points, both ends included.
-/
namespace Lookback.Text

def inRanges (rs : List (Nat × Nat)) (c : Char) : Bool :=
  rs.any fun r => r.1 ≤ c.toNat && c.toNat ≤ r.2

end Lookback.Text
