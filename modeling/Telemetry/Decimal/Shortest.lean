import Telemetry.Decimal.Binary

/-!
# The fewest decimal digits that read back

A positive float stands for all reals that round to it: the interval between the midpoints to its
two neighbours, with both ends if its number of units is even. Among the decimals in the interval
those with the fewest digits are wanted, and of these the nearest one. If the decimals of some
length meet the interval at all, one of the two of that length next to the value lies in it, so only
these two are tried.
-/
namespace Telemetry.Decimal

/-- A positive rational number. -/
structure Ratio where
  num : Nat
  den : Nat

/-- `n * 2 ^ e`. -/
def Ratio.ofBinary (n : Nat) (e : Int) : Ratio := ⟨n * Nat.pow 2 e.toNat, Nat.pow 2 (-e).toNat⟩

/-- `digits * 10 ^ exponent`. -/
structure Digits where
  digits : Nat
  exponent : Int
deriving DecidableEq

/-- The interval of a float in quarters of its unit: the value is `4 * units`. -/
structure Interval where
  low : Nat
  value : Nat
  high : Nat
  closed : Bool

/-- The lower neighbour of a power of two is only half a unit away, except at the least exponent. -/
def Interval.ofUnits (units : Nat) (exponent : Int) : Interval where
  low := if units = leastNormal ∧ -1074 < exponent then 4 * units - 1 else 4 * units - 2
  value := 4 * units
  high := 4 * units + 2
  closed := units % 2 = 0

def Interval.contains (i : Interval) (num den : Nat) : Bool :=
  if i.closed then i.low * den ≤ num && num ≤ i.high * den
  else i.low * den < num && num < i.high * den

/-- Scales by `10 ^ k`. -/
def Ratio.shift (r : Ratio) (k : Int) : Ratio :=
  ⟨r.num * Nat.pow 10 k.toNat, r.den * Nat.pow 10 (-k).toNat⟩

/-- The exponent of the first digit, found by counting down from `start`. -/
def Ratio.leadingExponent (r : Ratio) (start : Int) : Nat → Int
  | 0 => start
  | fuel + 1 =>
    let s := r.shift (-start)
    if s.den ≤ s.num then start else r.leadingExponent (start - 1) fuel

/-- The better of the two decimals with unit `10 ^ k` around the value, if one of them lies in the
interval; of two at the same distance the greater one. -/
def onGrid? (i : Interval) (exponent k : Int) : Option Digits :=
  let quarter := (Ratio.ofBinary 1 (exponent - 2)).shift (-k)
  let below := i.value * quarter.num / quarter.den
  let above := below + 1
  let reads (d : Nat) : Bool := i.contains (d * quarter.den) quarter.num
  let twice := 2 * i.value * quarter.num
  let belowNearer : Bool := twice < (below + above) * quarter.den
  if reads below && (belowNearer || !reads above) then some ⟨below, k⟩
  else if reads above then some ⟨above, k⟩
  else none

/-- Tries `count` digits, then one more, as long as there is fuel. -/
def shortestFrom (i : Interval) (exponent lead : Int) : Nat → Nat → Digits
  | _, 0 => ⟨0, 0⟩
  | count, fuel + 1 =>
    match onGrid? i exponent (lead - count + 1) with
    | some d => d
    | none => shortestFrom i exponent lead (count + 1) fuel

/-- Moves the zeros at the end of the digits into the exponent. -/
def Digits.trim (d : Digits) : Nat → Digits
  | 0 => d
  | fuel + 1 =>
    if d.digits ≠ 0 ∧ d.digits % 10 = 0 then Digits.trim ⟨d.digits / 10, d.exponent + 1⟩ fuel else d

/-- The digits of the positive value `units * 2 ^ exponent`. Seventeen digits always suffice. -/
def shortest (units : Nat) (exponent : Int) : Digits :=
  let r := Ratio.ofBinary units exponent
  let lead := r.leadingExponent 308 640
  (shortestFrom (Interval.ofUnits units exponent) exponent lead 1 18).trim 20

end Telemetry.Decimal
