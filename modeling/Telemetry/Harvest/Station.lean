import Telemetry.Intake

/-!
# Harvests

A harvest takes everything out of an intake, together with the number of records that were dropped
since the harvest before.
-/
namespace Telemetry

structure Payload where
  metrics : Metric.Aggregate
  traces : List TransactionTrace
  events : List Event
  errorTraces : List ErrorTrace
  errorEvents : List Event
  sqlTraces : List SqlTrace
  dropped : Drops

namespace Payload

/-- A payload that only tells of drops is not empty. -/
def isEmpty (p : Payload) : Bool :=
  p.metrics.isEmpty && p.traces.isEmpty && p.events.isEmpty && p.errorTraces.isEmpty &&
    p.errorEvents.isEmpty && p.sqlTraces.isEmpty && p.dropped.total == 0

def recordCount (p : Payload) : Nat :=
  p.traces.length + p.events.length + p.errorTraces.length + p.errorEvents.length +
    p.sqlTraces.length

end Payload

/-- An intake, and how many records it had dropped by the last harvest. -/
structure Station where
  intake : Intake
  toldDrops : Drops

namespace Station

def ofSizes (s : BufferSizes) : Except BufferError Station :=
  (Intake.ofSizes s).map (⟨·, .none⟩)

def build (s : BufferSizes) : Except Buffer.BuildFault Station :=
  (Intake.build s).map (⟨·, .none⟩)

def newDrops (s : Station) : Drops := s.intake.buffers.rejected.since s.toldDrops

def harvest (s : Station) : Station × Payload :=
  let b := s.intake.buffers
  let (traceBuffer, traces) := b.traces.drain
  let (eventBuffer, events) := b.events.drain
  let (errorTraceBuffer, errorTraces) := b.errorTraces.drain
  let (errorEventBuffer, errorEvents) := b.errorEvents.drain
  let (sqlTraceBuffer, sqlTraces) := b.sqlTraces.drain
  ({ intake :=
      { aggregate := .empty
        buffers :=
          ⟨traceBuffer, eventBuffer, errorTraceBuffer, errorEventBuffer, sqlTraceBuffer⟩ }
     toldDrops := b.rejected },
   { metrics := s.intake.aggregate
     traces := traces
     events := events
     errorTraces := errorTraces
     errorEvents := errorEvents
     sqlTraces := sqlTraces
     dropped := s.newDrops })

def harvestNotices (s : Station) : List Notice :=
  (if s.newDrops.total = 0 then [] else [.drops s.newDrops]) ++
    [s.intake.aggregate.harvestNotice]

def report {ν μ : Type} [NameService ν] [ErrorMaker μ] (s : Station) (rules : ReportRules ν μ)
    (t : Snapshot) : Station × Outcome :=
  let (intake, outcome) := s.intake.report rules t
  ({ s with intake := intake }, outcome)

end Station

end Telemetry
