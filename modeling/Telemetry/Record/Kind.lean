/-!
# Kinds of records

A transaction yields records of five kinds, each with a buffer of its own.
-/
namespace Telemetry

inductive RecordKind
  | trace
  | event
  | errorTrace
  | errorEvent
  | sqlTrace
deriving DecidableEq

def RecordKind.text : RecordKind → String
  | .trace => "transaction trace"
  | .event => "transaction event"
  | .errorTrace => "error trace"
  | .errorEvent => "error event"
  | .sqlTrace => "sql trace"

/-- How many records of each kind found their buffer full. -/
structure Drops where
  traces : Nat
  events : Nat
  errorTraces : Nat
  errorEvents : Nat
  sqlTraces : Nat
deriving DecidableEq

namespace Drops

def none : Drops := ⟨0, 0, 0, 0, 0⟩

/-- What was added since an earlier count. -/
def since (now earlier : Drops) : Drops where
  traces := now.traces - earlier.traces
  events := now.events - earlier.events
  errorTraces := now.errorTraces - earlier.errorTraces
  errorEvents := now.errorEvents - earlier.errorEvents
  sqlTraces := now.sqlTraces - earlier.sqlTraces

def total (d : Drops) : Nat :=
  d.traces + d.events + d.errorTraces + d.errorEvents + d.sqlTraces

end Drops

end Telemetry
