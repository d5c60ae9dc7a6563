/-!
# Binary fractions of 64 bits

A finite 64-bit float is a whole number of units 2^q. This module takes the sign, the unit and the
number of units apart.
-/
namespace Telemetry.Decimal

/-- What the 64 bits of a float stand for; a finite value is `units * 2 ^ exponent`. -/
inductive Binary
  | nan
  | infinite (negative : Bool)
  | finite (negative : Bool) (units : Nat) (exponent : Int)
deriving DecidableEq

/-- The units of the least float that has all its 53 digits, and the size of the fraction field. -/
def leastNormal : Nat := 4503599627370496

namespace Binary

def ofBits (bits : Nat) : Binary :=
  let negative := bits.testBit 63
  let field : Nat := bits / leastNormal % 2048
  let fraction := bits % leastNormal
  if field = 2047 then
    if fraction = 0 then .infinite negative else .nan
  else if field = 0 then .finite negative fraction (-1074)
  else .finite negative (leastNormal + fraction) ((field : Int) - 1075)

def ofFloat (x : Float) : Binary := ofBits x.toBits.toNat

example : ofBits 0x3ff0000000000000 = .finite false leastNormal (-52) := by decide

example : ofBits 0x8000000000000000 = .finite true 0 (-1074) := by decide

end Binary

end Telemetry.Decimal
