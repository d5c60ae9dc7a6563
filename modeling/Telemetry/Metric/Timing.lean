import Telemetry.Duration.Seconds

/-!
# Timings

A timing sums up calls: how many, how long in total, how long outside of nested calls, the shortest
and the longest. A timing without calls says nothing, so merging with one leaves the other as it is.
-/
namespace Telemetry.Metric

structure Timing where
  count : Nat
  total : Duration
  exclusive : Duration
  least : Duration
  greatest : Duration
  /-- The sum of the squared durations, in seconds squared. -/
  sumOfSquares : Float

namespace Timing

/-- A number of calls without any time. -/
def calls (n : Nat) : Timing := ⟨n, 0, 0, 0, 0, 0.0⟩

def none : Timing := calls 0

instance : Inhabited Timing := ⟨none⟩

/-- One call. -/
def once (total exclusive : Duration) : Timing :=
  ⟨1, total, exclusive, total, total, total.inSeconds * total.inSeconds⟩

def merge (a b : Timing) : Timing :=
  if a.count = 0 then b
  else if b.count = 0 then a
  else
    { count := a.count + b.count
      total := a.total + b.total
      exclusive := a.exclusive + b.exclusive
      least := min a.least b.least
      greatest := max a.greatest b.greatest
      sumOfSquares := a.sumOfSquares + b.sumOfSquares }

theorem count_merge (a b : Timing) : (a.merge b).count = a.count + b.count := by
  unfold merge
  split
  · omega
  · split <;> simp_all

end Timing

end Telemetry.Metric
