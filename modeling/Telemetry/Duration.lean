
/-!
# Lengths of time

A `Duration` is a whole number of nanoseconds that fits into 64 bits of seconds and a fraction.
Addition and scaling stop at the greatest duration and subtraction stops at zero, so every operation
is the operation on natural numbers followed by a cut.
-/
namespace Telemetry

def nanosPerSecond : Nat := 1000000000

/-- The nanoseconds of the greatest duration, one less than 2^64 seconds. -/
def greatestNanos : Nat := 18446744073709551616 * nanosPerSecond - 1

@[ext]
structure Duration where
  nanos : Nat
  nanos_le : nanos ≤ greatestNanos
deriving DecidableEq

namespace Duration

/-- The duration of `n` nanoseconds, or the greatest one if that is too long. -/
def capped (n : Nat) : Duration := ⟨min n greatestNanos, Nat.min_le_right n greatestNanos⟩

def greatest : Duration := ⟨greatestNanos, Nat.le_refl _⟩

instance : Zero Duration := ⟨⟨0, Nat.zero_le _⟩⟩

instance : Inhabited Duration := ⟨0⟩

instance : Add Duration := ⟨fun a b => capped (a.nanos + b.nanos)⟩

instance : Sub Duration :=
  ⟨fun a b => ⟨a.nanos - b.nanos, Nat.le_trans (Nat.sub_le _ _) a.nanos_le⟩⟩

instance : LE Duration := ⟨fun a b => a.nanos ≤ b.nanos⟩

instance : LT Duration := ⟨fun a b => a.nanos < b.nanos⟩

instance (a b : Duration) : Decidable (a ≤ b) := inferInstanceAs (Decidable (a.nanos ≤ b.nanos))

instance (a b : Duration) : Decidable (a < b) := inferInstanceAs (Decidable (a.nanos < b.nanos))

instance : Min Duration := ⟨fun a b => if a ≤ b then a else b⟩

instance : Max Duration := ⟨fun a b => if a ≤ b then b else a⟩

def scale (k : Nat) (d : Duration) : Duration := capped (k * d.nanos)

def isZero (d : Duration) : Bool := d.nanos == 0

/-- Whole seconds. -/
def seconds (d : Duration) : Nat := d.nanos / nanosPerSecond

/-- Nanoseconds beyond the whole seconds. -/
def subsecond (d : Duration) : Nat := d.nanos % nanosPerSecond

def ofSeconds (s : Nat) : Duration := capped (s * nanosPerSecond)

def ofMillis (ms : Nat) : Duration := capped (ms * 1000000)

/-- The sum of a list, cut at the greatest duration after each step. -/
def sum (ds : List Duration) : Duration := ds.foldl (· + ·) 0

theorem nanos_capped (n : Nat) : (capped n).nanos = min n greatestNanos := rfl

theorem capped_nanos (d : Duration) : capped d.nanos = d :=
  Duration.ext (Nat.min_eq_left d.nanos_le)

theorem nanos_zero : (0 : Duration).nanos = 0 := rfl

theorem nanos_add (a b : Duration) : (a + b).nanos = min (a.nanos + b.nanos) greatestNanos := rfl

theorem nanos_sub (a b : Duration) : (a - b).nanos = a.nanos - b.nanos := rfl

theorem nanos_scale (k : Nat) (d : Duration) :
    (d.scale k).nanos = min (k * d.nanos) greatestNanos := rfl

theorem le_iff (a b : Duration) : a ≤ b ↔ a.nanos ≤ b.nanos := Iff.rfl

theorem lt_iff (a b : Duration) : a < b ↔ a.nanos < b.nanos := Iff.rfl

theorem nanos_min (a b : Duration) : (min a b).nanos = min a.nanos b.nanos := by
  show (if a ≤ b then a else b).nanos = _
  split <;> rename_i h <;> rw [le_iff] at h <;> omega

theorem nanos_max (a b : Duration) : (max a b).nanos = max a.nanos b.nanos := by
  show (if a ≤ b then b else a).nanos = _
  split <;> rename_i h <;> rw [le_iff] at h <;> omega

end Duration

end Telemetry
