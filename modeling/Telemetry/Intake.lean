import Telemetry.Buffer.Building
import Telemetry.Metric.Aggregate
import Telemetry.Report
import Telemetry.Transaction.Step

/-!
# Taking reports in

An intake holds what waits to be harvested: the merged metrics and a bounded buffer for each kind of
record. Metrics are always taken; a record that finds its buffer full is dropped and counted there.
-/
namespace Telemetry

structure RecordBuffers where
  traces : Buffer TransactionTrace
  events : Buffer Event
  errorTraces : Buffer ErrorTrace
  errorEvents : Buffer Event
  sqlTraces : Buffer SqlTrace

namespace RecordBuffers

def ofSizes (s : BufferSizes) : Except BufferError RecordBuffers := do
  let traces ← Buffer.new s.traces s.partitions
  let events ← Buffer.new s.events s.partitions
  let errorTraces ← Buffer.new s.errorTraces s.partitions
  let errorEvents ← Buffer.new s.errorEvents s.partitions
  let sqlTraces ← Buffer.new s.sqlTraces s.partitions
  return ⟨traces, events, errorTraces, errorEvents, sqlTraces⟩

/-- The buffers as far as there is room, one after the other. -/
def build (s : BufferSizes) : Except Buffer.BuildFault RecordBuffers := do
  let traces ← Buffer.build s.traces s.partitions
  let events ← Buffer.build s.events s.partitions
  let errorTraces ← Buffer.build s.errorTraces s.partitions
  let errorEvents ← Buffer.build s.errorEvents s.partitions
  let sqlTraces ← Buffer.build s.sqlTraces s.partitions
  return ⟨traces, events, errorTraces, errorEvents, sqlTraces⟩

/-- All records that were ever turned away. -/
def rejected (b : RecordBuffers) : Drops where
  traces := b.traces.rejected
  events := b.events.rejected
  errorTraces := b.errorTraces.rejected
  errorEvents := b.errorEvents.rejected
  sqlTraces := b.sqlTraces.rejected

end RecordBuffers

/-- Offers records one after the other, whatever becomes of the earlier ones. -/
def Buffer.offer {α : Type} (b : Buffer α) (as : List α) : Buffer α :=
  as.foldl (fun b a => (b.add a).1) b

structure Intake where
  aggregate : Metric.Aggregate
  buffers : RecordBuffers

inductive Outcome
  | ignored
  | reported (inconsistencies : Nat)
  | failed (e : ReportError)
deriving DecidableEq

namespace Intake

def ofSizes (s : BufferSizes) : Except BufferError Intake :=
  (RecordBuffers.ofSizes s).map (⟨.empty, ·⟩)

def build (s : BufferSizes) : Except Buffer.BuildFault Intake :=
  (RecordBuffers.build s).map (⟨.empty, ·⟩)

def accept (i : Intake) (r : Report) : Intake where
  aggregate := i.aggregate.collect r.stats
  buffers :=
    { traces := i.buffers.traces.offer r.trace.toList
      events := i.buffers.events.offer r.event.toList
      errorTraces := i.buffers.errorTraces.offer r.errorTrace.toList
      errorEvents := i.buffers.errorEvents.offer r.errorEvent.toList
      sqlTraces := i.buffers.sqlTraces.offer r.sqlTraces }

/-- Reports a finished transaction. -/
def report {ν μ : Type} [NameService ν] [ErrorMaker μ] (i : Intake) (rules : ReportRules ν μ)
    (s : Snapshot) : Intake × Outcome :=
  match rules.examine s with
  | .flagged | .unwanted _ => (i, .ignored)
  | .empty => (i, .failed .emptyTransaction)
  | .report r => (i.accept r, .reported r.inconsistencies)

/-- One notice for each of the offered records that is turned away. -/
def dropNotices {α : Type} (kind : RecordKind) (b : Buffer α) (as : List α) : List Notice :=
  List.replicate ((b.offer as).rejected - b.rejected) (.recordDropped kind)

def acceptNotices (i : Intake) (r : Report) : List Notice :=
  (if r.inconsistencies = 0 then []
    else [.inconsistentLinks r.name.full r.inconsistencies r.moved]) ++
  r.clashes.map .kindClash ++
  (i.aggregate.collectClashes r.stats).map .kindClash ++
  dropNotices .trace i.buffers.traces r.trace.toList ++
  dropNotices .event i.buffers.events r.event.toList ++
  dropNotices .errorEvent i.buffers.errorEvents r.errorEvent.toList ++
  dropNotices .errorTrace i.buffers.errorTraces r.errorTrace.toList ++
  dropNotices .sqlTrace i.buffers.sqlTraces r.sqlTraces

def reportNotices {ν μ : Type} [NameService ν] [ErrorMaker μ] (i : Intake)
    (rules : ReportRules ν μ) (s : Snapshot) : List Notice :=
  match rules.examine s with
  | .flagged => [.flaggedIgnored]
  | .empty => []
  | .unwanted name => [.nameIgnored name.full]
  | .report r => i.acceptNotices r

end Intake

end Telemetry
