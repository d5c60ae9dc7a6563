import Telemetry.Decimal.Binary
import Telemetry.Duration

/-!
# Durations as seconds

Records carry durations as a float number of seconds, and settings give them that way. Reading
rounds to the nearest nanosecond, a half to the even neighbour.
-/
namespace Telemetry

inductive SecondsError
  | negative
  | outOfRange
deriving DecidableEq

def SecondsError.message : SecondsError → String
  | .negative => "cannot convert float seconds to Duration: value is negative"
  | .outOfRange => "cannot convert float seconds to Duration: value is either too big or NaN"

/-- The whole number nearest to `num / den`, a half going to the even one. -/
def roundHalfEven (num den : Nat) : Nat :=
  let q := num / den
  let twice := 2 * (num % den)
  if twice < den then q else if den < twice then q + 1 else q + q % 2

namespace Duration

/-- The whole seconds and the fraction are converted each on its own and then added. -/
def inSeconds (d : Duration) : Float :=
  Float.ofNat d.seconds + Float.ofNat d.subsecond / 1000000000.0

def ofBinarySeconds : Decimal.Binary → Except SecondsError Duration
  | .nan => .error .outOfRange
  | .infinite negative => .error (if negative then .negative else .outOfRange)
  | .finite negative units exponent =>
    if negative = true ∧ units ≠ 0 then .error .negative
    else
      let n := roundHalfEven (units * nanosPerSecond * Nat.pow 2 exponent.toNat)
        (Nat.pow 2 (-exponent).toNat)
      if h : n ≤ greatestNanos then .ok ⟨n, h⟩ else .error .outOfRange

def ofFloatSeconds (x : Float) : Except SecondsError Duration :=
  ofBinarySeconds (Decimal.Binary.ofFloat x)

end Duration

end Telemetry
