import Telemetry.Dict
import Telemetry.Duration

/-!
# Settings

All that can be configured, with the values that hold where nothing is said.
-/
namespace Telemetry

/-- The capacity of each buffer, and the number of partitions of all of them. -/
structure BufferSizes where
  traces : Nat
  events : Nat
  errorTraces : Nat
  errorEvents : Nat
  sqlTraces : Nat
  partitions : Nat
deriving DecidableEq

def BufferSizes.standard : BufferSizes := ⟨100, 10000, 20, 100, 100, 4⟩

structure Settings where
  /-- What the names of span metrics start with. -/
  runtimePrefix : String
  apdexTarget : Duration
  /-- Targets of single transactions, by their full metric names. -/
  apdexOverrides : Dict String Duration
  /-- Full metric names of transactions that are never reported. -/
  ignoredNames : List String
  tracerEnabled : Bool
  eventsEnabled : Bool
  transactionEventsEnabled : Bool
  errorsEnabled : Bool
  errorEventsEnabled : Bool
  sqlTracesEnabled : Bool
  /-- Response statuses that are no errors. -/
  ignoredStatuses : List Nat
  stripMessages : Bool
  stackFrames : Nat
  buffers : BufferSizes
  harvestInterval : Duration
  logLevel : String

namespace Settings

def standardStackFrames : Nat := 80

def standard : Settings where
  runtimePrefix := "Rust"
  apdexTarget := .ofMillis 500
  apdexOverrides := .empty
  ignoredNames := []
  tracerEnabled := true
  eventsEnabled := true
  transactionEventsEnabled := true
  errorsEnabled := true
  errorEventsEnabled := true
  sqlTracesEnabled := true
  ignoredStatuses := [404]
  stripMessages := false
  stackFrames := standardStackFrames
  buffers := .standard
  harvestInterval := .ofSeconds 60
  logLevel := "info"

end Settings

end Telemetry
