/-!
# JavaChecker.Text.Ranges

Sets of characters given as ranges of code points, the form in which Unicode publishes its
properties.
-/

namespace JavaChecker.Text

/-- Ranges of code points, both ends included. -/
abbrev Ranges := Array (Nat × Nat)

/-- Whether a character lies in one of the ranges. -/
def Ranges.contains (rs : Ranges) (c : Char) : Bool :=
  rs.any fun (low, high) => low ≤ c.toNat && c.toNat ≤ high

end JavaChecker.Text
