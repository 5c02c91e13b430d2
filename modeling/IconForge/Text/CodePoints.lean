/-!
Contract: sets of characters given as ranges of code points.

Owns: the range list and its membership test. The tables themselves stand
beside the classes that use them.
-/

namespace IconForge.Text

/-- A set of code points: the members of any of the closed ranges. -/
structure CodePoints where
  ranges : List (Nat × Nat)

namespace CodePoints

def contains (set : CodePoints) (c : Char) : Bool :=
  set.ranges.any fun range => range.1 ≤ c.toNat && c.toNat ≤ range.2

end CodePoints

end IconForge.Text
