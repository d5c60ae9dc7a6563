import Telemetry.Harvest.Station
import Telemetry.Proofs.Buffer.Filling

/-!
# Records kind by kind

The records of a report, the buffers, the drops and the payload all have one part for each kind of
record. A report and a harvest do the same with every kind, whatever its records are.
-/
namespace Telemetry.RecordKind

abbrev Item : RecordKind → Type
  | trace => TransactionTrace
  | event => Event
  | errorTrace => ErrorTrace
  | errorEvent => Event
  | sqlTrace => SqlTrace

def capacity (s : BufferSizes) : RecordKind → Nat
  | trace => s.traces
  | event => s.events
  | errorTrace => s.errorTraces
  | errorEvent => s.errorEvents
  | sqlTrace => s.sqlTraces

/-- The records of a report, in the order in which they are offered. -/
def records (r : Report) : (k : RecordKind) → List k.Item
  | trace => r.trace.toList
  | event => r.event.toList
  | errorTrace => r.errorTrace.toList
  | errorEvent => r.errorEvent.toList
  | sqlTrace => r.sqlTraces

def buffer (b : RecordBuffers) : (k : RecordKind) → Buffer k.Item
  | trace => b.traces
  | event => b.events
  | errorTrace => b.errorTraces
  | errorEvent => b.errorEvents
  | sqlTrace => b.sqlTraces

def drops (d : Drops) : RecordKind → Nat
  | trace => d.traces
  | event => d.events
  | errorTrace => d.errorTraces
  | errorEvent => d.errorEvents
  | sqlTrace => d.sqlTraces

def delivered (p : Payload) : (k : RecordKind) → List k.Item
  | trace => p.traces
  | event => p.events
  | errorTrace => p.errorTraces
  | errorEvent => p.errorEvents
  | sqlTrace => p.sqlTraces

theorem stocked_ofSizes (s : BufferSizes) (h : 0 < s.partitions) :
    ∃ b, RecordBuffers.ofSizes s = .ok b ∧
      ∀ k : RecordKind, (k.buffer b).Stocked (k.capacity s) 0 [] := by
  have hnew (k : RecordKind) : ∃ b : Buffer k.Item,
      Buffer.new (k.capacity s) s.partitions = .ok b ∧ b.Stocked (k.capacity s) 0 [] :=
    Buffer.stocked_new _ h
  choose b hb hstocked using hnew
  refine ⟨⟨b trace, b event, b errorTrace, b errorEvent, b sqlTrace⟩, ?_, ?_⟩
  · rw [RecordBuffers.ofSizes, show Buffer.new s.traces _ = _ from hb trace,
      show Buffer.new s.events _ = _ from hb event,
      show Buffer.new s.errorTraces _ = _ from hb errorTrace,
      show Buffer.new s.errorEvents _ = _ from hb errorEvent,
      show Buffer.new s.sqlTraces _ = _ from hb sqlTrace]
    rfl
  · intro k
    have hk := hstocked k
    cases k <;> exact hk

theorem buffer_accept (i : Intake) (r : Report) (k : RecordKind) :
    k.buffer (i.accept r).buffers = (k.buffer i.buffers).offer (k.records r) := by
  cases k <;> rfl

theorem drops_rejected (b : RecordBuffers) (k : RecordKind) :
    k.drops b.rejected = (k.buffer b).rejected := by
  cases k <;> rfl

theorem drops_since (now earlier : Drops) (k : RecordKind) :
    k.drops (now.since earlier) = k.drops now - k.drops earlier := by
  cases k <;> rfl

variable (s : Station) (k : RecordKind)

theorem delivered_harvest : k.delivered s.harvest.2 = (k.buffer s.intake.buffers).drain.2 := by
  cases k <;> rfl

theorem buffer_harvest :
    k.buffer s.harvest.1.intake.buffers = (k.buffer s.intake.buffers).drain.1 := by
  cases k <;> rfl

theorem drops_harvest : k.drops s.harvest.2.dropped =
    (k.buffer s.intake.buffers).rejected - k.drops s.toldDrops := by
  rw [← drops_rejected, ← drops_since]
  rfl

theorem toldDrops_harvest :
    k.drops s.harvest.1.toldDrops = (k.buffer s.intake.buffers).rejected := by
  rw [← drops_rejected]
  rfl

end Telemetry.RecordKind
