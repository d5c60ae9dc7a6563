import Telemetry.Harvest.Station

/-!
# Harvesting until told to stop

A run harvests at every tick and hands each payload that is not empty to a sender, who delivers it
or hands it back. A payload handed back is tried once more before the next harvest and then given
up.
When the run is stopped it harvests a last time.
-/
namespace Telemetry.Harvest

/-- One call of the sender. -/
structure Attempt where
  payload : Payload
  delivered : Bool

/-- The state of a run, with what it has done so far. -/
structure Run where
  station : Station
  /-- A payload that was handed back and has not been tried again. -/
  held : Option Payload
  attempts : List Attempt
  notices : Array Notice

/-- Whether each call of the sender delivers, by the number of calls before it. -/
abbrev Sender := Nat → Bool

namespace Run

def start (station : Station) : Run := ⟨station, none, [], #[]⟩

def tell (r : Run) (ns : List Notice) : Run := { r with notices := r.notices ++ ns }

/-- Calls the sender; the second part is the payload if it is handed back. -/
def send (sender : Sender) (r : Run) (p : Payload) : Run × Option Payload :=
  let delivered := sender r.attempts.length
  ({ r with attempts := r.attempts ++ [⟨p, delivered⟩] }, if delivered then none else some p)

/-- Tries a held payload once more. -/
def retry (sender : Sender) (r : Run) : Run :=
  match r.held with
  | none => r
  | some p =>
    let (r, back) := send sender ({ r with held := none }.tell [.retrying p.recordCount]) p
    match back with
    | some p => r.tell [.retryFailed p.recordCount]
    | none => r

/-- Harvests and sends what there is. -/
def harvestAndSend (sender : Sender) (r : Run) : Run :=
  let (station, p) := r.station.harvest
  let r := { r.tell r.station.harvestNotices with station := station }
  if p.isEmpty then r
  else
    let (r, back) := send sender (r.tell [.sending p.recordCount]) p
    match back with
    | some p => { r.tell [.sendingFailed] with held := some p }
    | none => r

/-- What happens at a tick. -/
def flush (sender : Sender) (r : Run) : Run := harvestAndSend sender (retry sender r)

/-- The last harvest; what cannot be delivered now is lost. -/
def stop (sender : Sender) (r : Run) : Run :=
  let r := flush sender (r.tell [.stopping])
  match r.held with
  | some p => { r.tell [.lostAtStop p.recordCount] with held := none }
  | none => r

def ticks (sender : Sender) (r : Run) : Nat → Run
  | 0 => r
  | n + 1 => ticks sender (flush sender r) n

end Run

/-- Thirty years of 365 days: no tick is further off than that, whatever the interval. -/
def longestInterval : Duration := .ofSeconds 946080000

/-- The number of ticks that have come when the clock has reached `clock` milliseconds, where ticks
are due at the multiples of the interval, or of `longestInterval` if that is shorter. The clock only
shows whole milliseconds: a tick comes with the first of them that is not before its time, and after
all else that happens then. -/
def ticksBy (interval : Duration) (clock : Nat) : Nat :=
  (Duration.ofMillis (clock - 1)).nanos / (min interval longestInterval).nanos

/-- The number of ticks while the clock goes on from `now` to `later`. -/
def ticksBetween (interval : Duration) (now later : Nat) : Nat :=
  ticksBy interval later - ticksBy interval now

end Telemetry.Harvest
