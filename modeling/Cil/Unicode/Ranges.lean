/-!
# Character classes as ranges

A class of characters beyond ASCII is a list of ranges of code points, both ends included, in
ascending order.
-/

namespace Cil.Unicode

/-- Ranges of code points, ends included. -/
abbrev Ranges := List (Nat × Nat)

def Ranges.holds (ranges : Ranges) (c : Char) : Bool :=
  ranges.any fun (first, last) => first ≤ c.toNat && c.toNat ≤ last

end Cil.Unicode
