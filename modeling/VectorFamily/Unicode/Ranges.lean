/-!
# Sets of characters as ranges of code points

A set is a list of closed ranges, in ascending order in the tables; membership does not depend on
the order.
-/

namespace VectorFamily.Unicode

/-- Closed ranges of code points. -/
abbrev Ranges := List (Nat × Nat)

/-- Some range holds the code point of `c`. -/
def Ranges.has (rs : Ranges) (c : Char) : Bool :=
  rs.any fun r => r.1 ≤ c.toNat && c.toNat ≤ r.2

end VectorFamily.Unicode
