import Telemetry.Duration

/-!
# Apdex

Apdex sorts transactions into three zones by a target time: satisfying up to the target, tolerating
up to four times the target, frustrating beyond that or with an error. A statistic counts the zones
and keeps the least and the greatest target.
-/
namespace Telemetry.Metric

inductive Zone
  | satisfying
  | tolerating
  | frustrating
deriving DecidableEq

namespace Zone

def classify (duration target : Duration) (hasError : Bool) : Zone :=
  if hasError then frustrating
  else if duration ≤ target then satisfying
  else if duration ≤ target.scale 4 then tolerating
  else frustrating

def letter : Zone → String
  | satisfying => "S"
  | tolerating => "T"
  | frustrating => "F"

end Zone

structure Apdex where
  satisfying : Nat
  tolerating : Nat
  frustrating : Nat
  least : Duration
  greatest : Duration
deriving DecidableEq

namespace Apdex

def none : Apdex := ⟨0, 0, 0, 0, 0⟩

instance : Inhabited Apdex := ⟨none⟩

/-- One transaction in the given zone. -/
def once (zone : Zone) (target : Duration) : Apdex :=
  match zone with
  | .satisfying => ⟨1, 0, 0, target, target⟩
  | .tolerating => ⟨0, 1, 0, target, target⟩
  | .frustrating => ⟨0, 0, 1, target, target⟩

def total (a : Apdex) : Nat := a.satisfying + a.tolerating + a.frustrating

/-- A statistic without transactions is replaced; otherwise counts add up and targets widen. -/
def merge (a b : Apdex) : Apdex :=
  if a.total = 0 then b
  else
    { satisfying := a.satisfying + b.satisfying
      tolerating := a.tolerating + b.tolerating
      frustrating := a.frustrating + b.frustrating
      least := min a.least b.least
      greatest := max a.greatest b.greatest }

theorem total_once (zone : Zone) (target : Duration) : (once zone target).total = 1 := by
  cases zone <;> rfl

theorem total_merge (a b : Apdex) : (a.merge b).total = a.total + b.total := by
  unfold merge
  split
  · omega
  · simp only [total]; omega

end Apdex

end Telemetry.Metric
