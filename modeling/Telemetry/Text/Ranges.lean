/-!
# Sets of characters given by ranges

A property of characters is listed as ranges of code points, in ascending order and without
overlaps.
-/
namespace Telemetry.Text

/-- Ranges of code points, both ends included. -/
abbrev Ranges := Array (Nat × Nat)

def Ranges.contains (rs : Ranges) (c : Char) : Bool :=
  rs.any fun r => decide (r.1 ≤ c.toNat) && decide (c.toNat ≤ r.2)

end Telemetry.Text
