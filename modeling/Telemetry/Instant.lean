import Telemetry.Duration.Seconds

/-!
# Points in time

An `Instant` counts nanoseconds from the Unix epoch in both directions. Its whole seconds fit into a
signed 64-bit number, and a sum that would leave that range does not exist.
-/
namespace Telemetry

structure Instant where
  nanos : Int
deriving DecidableEq

namespace Instant

def epoch : Instant := ⟨0⟩

instance : Inhabited Instant := ⟨epoch⟩

/-- The nanoseconds are added to the seconds, also before the epoch. -/
def ofParts (seconds : Int) (nanos : Nat) : Instant := ⟨seconds * nanosPerSecond + nanos⟩

/-- 2^63. -/
def secondsLimit : Int := 9223372036854775808

def inRange (t : Instant) : Bool :=
  let seconds := t.nanos.fdiv nanosPerSecond
  decide (-secondsLimit ≤ seconds) && decide (seconds < secondsLimit)

def after? (t : Instant) (d : Duration) : Option Instant :=
  let later : Instant := ⟨t.nanos + d.nanos⟩
  if later.inRange then some later else none

/-- The time since the epoch, for an instant that is not before it. -/
def sinceEpoch? (t : Instant) : Option Duration :=
  if 0 ≤ t.nanos then some (Duration.capped t.nanos.toNat) else none

/-- Seconds since the epoch, and zero before it. -/
def unixSeconds (t : Instant) : Float :=
  match t.sinceEpoch? with
  | some d => d.inSeconds
  | none => 0.0

instance : LE Instant := ⟨fun a b => a.nanos ≤ b.nanos⟩

instance (a b : Instant) : Decidable (a ≤ b) := inferInstanceAs (Decidable (a.nanos ≤ b.nanos))

end Instant

end Telemetry
