import Telemetry.Proofs.Buffer.Movements
import Telemetry.Proofs.Harvest.Kinds

/-!
# Between two harvests

Metrics and records arrive at a station one by one; metrics are collected and a record is accepted or
rejected. What a harvest would deliver gains exactly what is collected and accepted and counts what is
rejected, and after a harvest nothing is left.
-/
namespace Telemetry

namespace RecordKind

/-- The buffers with another one for a kind of record. -/
def store (b : RecordBuffers) : (k : RecordKind) → Buffer k.Item → RecordBuffers
  | trace, c => { b with traces := c }
  | event, c => { b with events := c }
  | errorTrace, c => { b with errorTraces := c }
  | errorEvent, c => { b with errorEvents := c }
  | sqlTrace, c => { b with sqlTraces := c }

theorem buffer_store_self (b : RecordBuffers) (k : RecordKind) (c : Buffer k.Item) :
    k.buffer (k.store b c) = c := by
  cases k <;> rfl

theorem buffer_store_of_ne (b : RecordBuffers) {k j : RecordKind} (h : j ≠ k) (c : Buffer k.Item) :
    j.buffer (k.store b c) = j.buffer b := by
  cases k <;> cases j <;> first | rfl | exact absurd rfl h

end RecordKind

/-- What the sinks of a station are given. -/
inductive Arrival
  | metrics (s : Metric.Stats)
  | record (k : RecordKind) (a : k.Item)

/-- What becomes of an arrival. -/
inductive Receipt
  | collected (s : Metric.Stats)
  | accepted (k : RecordKind) (a : k.Item)
  | rejected (k : RecordKind) (a : k.Item)

namespace Receipt

/-- What the receipt is for. -/
def arrival : Receipt → Arrival
  | collected s => .metrics s
  | accepted k a => .record k a
  | rejected k a => .record k a

def stats? : Receipt → Option Metric.Stats
  | collected s => some s
  | _ => none

/-- The record, if it is of that kind and was accepted. -/
def kept (k : RecordKind) : Receipt → List k.Item
  | accepted j a => if h : j = k then [h ▸ a] else []
  | _ => []

/-- One for a record of that kind that was rejected. -/
def drops (k : RecordKind) : Receipt → Nat
  | rejected j _ => if j = k then 1 else 0
  | _ => 0

end Receipt

namespace Station

def storeBuffer (st : Station) (k : RecordKind) (b : Buffer k.Item) : Station :=
  { st with intake := { st.intake with buffers := k.store st.intake.buffers b } }

def receive (st : Station) : Arrival → Station × Receipt
  | .metrics s =>
    ({ st with intake := { st.intake with aggregate := st.intake.aggregate.collect s } },
      .collected s)
  | .record k a =>
    match (k.buffer st.intake.buffers).add a with
    | (b, none) => (st.storeBuffer k b, .accepted k a)
    | (b, some a) => (st.storeBuffer k b, .rejected k a)

def receiveAll (st : Station) : List Arrival → Station × List Receipt
  | [] => (st, [])
  | a :: as =>
    let (st, receipt) := st.receive a
    let (st, receipts) := st.receiveAll as
    (st, receipt :: receipts)

/-- What a harvest would deliver now. -/
def pending (st : Station) : Payload := st.harvest.2

/-- No drop was told before it happened. -/
def Fair (st : Station) : Prop :=
  ∀ k : RecordKind, k.drops st.toldDrops ≤ (k.buffer st.intake.buffers).rejected

end Station

theorem Payload.eq_of_kinds {p q : Payload} (hmetrics : p.metrics = q.metrics)
    (hrecords : ∀ k : RecordKind, k.delivered p = k.delivered q)
    (hdropped : ∀ k : RecordKind, k.drops p.dropped = k.drops q.dropped) : p = q := by
  obtain ⟨metrics, traces, events, errorTraces, errorEvents, sqlTraces, ⟨_, _, _, _, _⟩⟩ := p
  obtain rfl : metrics = q.metrics := hmetrics
  obtain rfl : traces = q.traces := hrecords .trace
  obtain rfl : events = q.events := hrecords .event
  obtain rfl : errorTraces = q.errorTraces := hrecords .errorTrace
  obtain rfl : errorEvents = q.errorEvents := hrecords .errorEvent
  obtain rfl : sqlTraces = q.sqlTraces := hrecords .sqlTrace
  congr
  exacts [hdropped .trace, hdropped .event, hdropped .errorTrace, hdropped .errorEvent,
    hdropped .sqlTrace]

def Payload.nothing : Payload := ⟨.empty, [], [], [], [], [], .none⟩

theorem Dict.eq_empty_of_isEmpty {α β : Type} {d : Dict α β} (h : d.isEmpty = true) :
    d = .empty := by
  obtain ⟨entries, nodup⟩ := d
  obtain rfl : entries = [] := List.isEmpty_iff.mp h
  rfl

theorem Drops.eq_none_of_total {d : Drops} (h : d.total = 0) : d = .none := by
  obtain ⟨traces, events, errorTraces, errorEvents, sqlTraces⟩ := d
  simp only [Drops.total] at h
  simp only [Drops.none, Drops.mk.injEq]
  omega

theorem Metric.Aggregate.eq_empty_of_isEmpty {a : Metric.Aggregate} (h : a.isEmpty = true) :
    a = .empty := by
  obtain ⟨scopes, overall, transactions⟩ := a
  simp only [Metric.Aggregate.isEmpty, Bool.and_eq_true, beq_iff_eq] at h
  obtain ⟨⟨rfl, hoverall⟩, hscopes⟩ := h
  rw [Dict.eq_empty_of_isEmpty hoverall, Dict.eq_empty_of_isEmpty hscopes]
  rfl

/-- A payload that counts as empty tells of nothing at all, not even of drops. -/
theorem Payload.isEmpty_iff {p : Payload} : p.isEmpty = true ↔ p = .nothing := by
  constructor
  · intro h
    obtain ⟨metrics, traces, events, errorTraces, errorEvents, sqlTraces, dropped⟩ := p
    simp only [Payload.isEmpty, Bool.and_eq_true, beq_iff_eq, List.isEmpty_iff] at h
    obtain ⟨⟨⟨⟨⟨⟨hmetrics, rfl⟩, rfl⟩, rfl⟩, rfl⟩, rfl⟩, hdropped⟩ := h
    rw [Metric.Aggregate.eq_empty_of_isEmpty hmetrics, Drops.eq_none_of_total hdropped]
    rfl
  · rintro rfl
    rfl

/-- The later payload is the earlier one with exactly what the receipts tell of. -/
structure Gathers (earlier : Payload) (rs : List Receipt) (later : Payload) : Prop where
  metrics : later.metrics =
    (rs.filterMap Receipt.stats?).foldl Metric.Aggregate.collect earlier.metrics
  records : ∀ k : RecordKind,
    (k.delivered later).Perm (k.delivered earlier ++ rs.flatMap (Receipt.kept k))
  dropped : ∀ k : RecordKind,
    k.drops later.dropped = k.drops earlier.dropped + (rs.map (Receipt.drops k)).sum

theorem Gathers.refl (p : Payload) : Gathers p [] p :=
  ⟨rfl, fun _ => by rw [List.flatMap_nil, List.append_nil], fun _ => rfl⟩

theorem Gathers.trans {p q r : Payload} {rs rs' : List Receipt} (h : Gathers p rs q)
    (h' : Gathers q rs' r) : Gathers p (rs ++ rs') r where
  metrics := by rw [List.filterMap_append, List.foldl_append, ← h.metrics, h'.metrics]
  records k := by
    rw [List.flatMap_append, ← List.append_assoc]
    exact (h'.records k).trans ((h.records k).append_right _)
  dropped k := by
    rw [h'.dropped, h.dropped, List.map_append, List.sum_append, Nat.add_assoc]

namespace Station

variable {st : Station}

theorem receive_of_place {k : RecordKind} {a : k.Item} {ps : List (Partition k.Item)}
    (h : Buffer.place a (k.buffer st.intake.buffers).partitions = some ps) :
    st.receive (.record k a) = (st.storeBuffer k ((k.buffer st.intake.buffers).add a).1,
      .accepted k a) := by
  rw [receive, Buffer.add_of_place h]

theorem receive_of_full {k : RecordKind} {a : k.Item}
    (h : Buffer.place a (k.buffer st.intake.buffers).partitions = none) :
    st.receive (.record k a) = (st.storeBuffer k ((k.buffer st.intake.buffers).add a).1,
      .rejected k a) := by
  rw [receive, Buffer.add_of_full h]

theorem arrival_receive (st : Station) (a : Arrival) : (st.receive a).2.arrival = a := by
  cases a with
  | metrics s => rfl
  | record k a =>
    cases hplace : Buffer.place a (k.buffer st.intake.buffers).partitions with
    | none => rw [receive_of_full hplace, Receipt.arrival]
    | some ps => rw [receive_of_place hplace, Receipt.arrival]

theorem arrivals_receiveAll (st : Station) (as : List Arrival) :
    (st.receiveAll as).2.map Receipt.arrival = as := by
  induction as generalizing st with
  | nil => rfl
  | cons a rest ih => exact congrArg₂ List.cons (arrival_receive st a) (ih (st.receive a).1)

theorem delivered_pending (st : Station) (k : RecordKind) :
    k.delivered st.pending = Buffer.held (k.buffer st.intake.buffers).partitions := by
  rw [pending, RecordKind.delivered_harvest, Buffer.drain_eq]

theorem drops_pending (st : Station) (k : RecordKind) :
    k.drops st.pending.dropped = (k.buffer st.intake.buffers).rejected - k.drops st.toldDrops :=
  RecordKind.drops_harvest st k

theorem kept_collected (k : RecordKind) (s : Metric.Stats) : (Receipt.collected s).kept k = [] := rfl

theorem kept_rejected (j k : RecordKind) (a : j.Item) : (Receipt.rejected j a).kept k = [] := rfl

theorem kept_accepted (k : RecordKind) (a : k.Item) : (Receipt.accepted k a).kept k = [a] :=
  dif_pos rfl

theorem kept_accepted_of_ne {j k : RecordKind} (h : k ≠ j) (a : j.Item) :
    (Receipt.accepted j a).kept k = [] := dif_neg h.symm

/-- Another buffer for one kind leaves what is pending of the other kinds. -/
theorem pending_storeBuffer_of_ne (st : Station) {j k : RecordKind} (h : j ≠ k)
    (b : Buffer k.Item) :
    j.delivered (st.storeBuffer k b).pending = j.delivered st.pending ∧
      j.drops (st.storeBuffer k b).pending.dropped = j.drops st.pending.dropped := by
  rw [delivered_pending, delivered_pending, drops_pending, drops_pending, storeBuffer,
    RecordKind.buffer_store_of_ne _ h]
  exact ⟨rfl, rfl⟩

theorem pending_storeBuffer_self (st : Station) (k : RecordKind) (b : Buffer k.Item) :
    k.delivered (st.storeBuffer k b).pending = Buffer.held b.partitions ∧
      k.drops (st.storeBuffer k b).pending.dropped = b.rejected - k.drops st.toldDrops := by
  rw [delivered_pending, drops_pending, storeBuffer, RecordKind.buffer_store_self]
  exact ⟨rfl, rfl⟩

theorem gathers_metrics (st : Station) (s : Metric.Stats) :
    Gathers st.pending [(st.receive (.metrics s)).2] (st.receive (.metrics s)).1.pending := by
  refine ⟨rfl, fun k => ?_, fun k => ?_⟩
  · rw [receive, List.flatMap_singleton, kept_collected, List.append_nil]
    rfl
  · rw [drops_pending, drops_pending]
    rfl

theorem gathers_accepted {k : RecordKind} {a : k.Item} {ps : List (Partition k.Item)}
    (h : Buffer.place a (k.buffer st.intake.buffers).partitions = some ps) :
    Gathers st.pending [(st.receive (.record k a)).2] (st.receive (.record k a)).1.pending := by
  rw [receive_of_place h, Buffer.add_of_place h]
  refine ⟨rfl, fun j => ?_, fun j => ?_⟩
  · rw [List.flatMap_singleton]
    by_cases hj : j = k
    · subst hj
      rw [(pending_storeBuffer_self st j _).1, delivered_pending, kept_accepted]
      exact (Buffer.held_place_perm h).trans (List.perm_append_singleton a _).symm
    · rw [(pending_storeBuffer_of_ne st hj _).1, kept_accepted_of_ne hj, List.append_nil]
  · by_cases hj : j = k
    · subst hj
      rw [(pending_storeBuffer_self st j _).2, drops_pending]
      rfl
    · rw [(pending_storeBuffer_of_ne st hj _).2]
      rfl

theorem gathers_rejected (hfair : st.Fair) {k : RecordKind} {a : k.Item}
    (h : Buffer.place a (k.buffer st.intake.buffers).partitions = none) :
    Gathers st.pending [(st.receive (.record k a)).2] (st.receive (.record k a)).1.pending := by
  rw [receive_of_full h, Buffer.add_of_full h]
  refine ⟨rfl, fun j => ?_, fun j => ?_⟩
  · rw [List.flatMap_singleton, kept_rejected, List.append_nil]
    by_cases hj : j = k
    · subst hj
      rw [(pending_storeBuffer_self st j _).1, delivered_pending]
    · rw [(pending_storeBuffer_of_ne st hj _).1]
  · rw [List.map_singleton, List.sum_cons, List.sum_nil, Receipt.drops]
    by_cases hj : j = k
    · subst hj
      have htold := hfair j
      rw [(pending_storeBuffer_self st j _).2, drops_pending, if_pos rfl]
      dsimp only
      omega
    · rw [(pending_storeBuffer_of_ne st hj _).2, if_neg (Ne.symm hj)]
      rfl

theorem gathers_receive (hfair : st.Fair) (a : Arrival) :
    Gathers st.pending [(st.receive a).2] (st.receive a).1.pending := by
  cases a with
  | metrics s => exact gathers_metrics st s
  | record k a =>
    cases hplace : Buffer.place a (k.buffer st.intake.buffers).partitions with
    | none => exact gathers_rejected hfair hplace
    | some ps => exact gathers_accepted hplace

theorem Fair.storeBuffer (h : st.Fair) {k : RecordKind} {b : Buffer k.Item}
    (hle : (k.buffer st.intake.buffers).rejected ≤ b.rejected) : (st.storeBuffer k b).Fair := by
  intro j
  by_cases hj : j = k
  · subst hj
    rw [Station.storeBuffer, RecordKind.buffer_store_self]
    exact Nat.le_trans (h j) hle
  · rw [Station.storeBuffer, RecordKind.buffer_store_of_ne _ hj]
    exact h j

theorem Fair.receive (h : st.Fair) (a : Arrival) : (st.receive a).1.Fair := by
  cases a with
  | metrics s => exact h
  | record k a =>
    cases hplace : Buffer.place a (k.buffer st.intake.buffers).partitions with
    | none =>
      rw [receive_of_full hplace, Buffer.add_of_full hplace]
      exact h.storeBuffer (Nat.le_succ _)
    | some ps =>
      rw [receive_of_place hplace, Buffer.add_of_place hplace]
      exact h.storeBuffer (Nat.le_refl _)

theorem Fair.receiveAll (h : st.Fair) (as : List Arrival) : (st.receiveAll as).1.Fair := by
  induction as generalizing st with
  | nil => exact h
  | cons a rest ih => exact ih (h.receive a)

theorem gathers_receiveAll (hfair : st.Fair) (as : List Arrival) :
    Gathers st.pending (st.receiveAll as).2 (st.receiveAll as).1.pending := by
  induction as generalizing st with
  | nil => exact Gathers.refl st.pending
  | cons a rest ih => exact (gathers_receive hfair a).trans (ih (hfair.receive a))

theorem fair_harvest (st : Station) : st.harvest.1.Fair := by
  intro k
  have htold : k.drops st.harvest.1.toldDrops =
      (k.buffer st.harvest.1.intake.buffers).rejected := by
    rw [RecordKind.toldDrops_harvest, RecordKind.buffer_harvest, Buffer.drain_eq]
  exact Nat.le_of_eq htold

/-- After a harvest nothing is left. -/
theorem pending_harvest (st : Station) : st.harvest.1.pending = .nothing := by
  have hdelivered (k : RecordKind) : k.delivered st.harvest.1.pending = [] := by
    rw [delivered_pending, RecordKind.buffer_harvest, Buffer.drain_eq]
    exact Buffer.held_emptied _
  have hdrops (k : RecordKind) : k.drops st.harvest.1.pending.dropped = 0 := by
    rw [drops_pending, RecordKind.toldDrops_harvest, RecordKind.buffer_harvest, Buffer.drain_eq]
    exact Nat.sub_self _
  refine Payload.eq_of_kinds rfl (fun k => ?_) fun k => ?_
  · rw [hdelivered]
    cases k <;> rfl
  · rw [hdrops]
    cases k <;> rfl

theorem receiveAll_append (st : Station) (as bs : List Arrival) :
    (st.receiveAll (as ++ bs)).1 = ((st.receiveAll as).1.receiveAll bs).1 := by
  induction as generalizing st with
  | nil => rfl
  | cons a rest ih => exact ih (st.receive a).1

theorem receive_record (st : Station) (k : RecordKind) (a : k.Item) :
    (st.receive (.record k a)).1 = st.storeBuffer k ((k.buffer st.intake.buffers).add a).1 := by
  cases hplace : Buffer.place a (k.buffer st.intake.buffers).partitions with
  | none => rw [receive_of_full hplace]
  | some ps => rw [receive_of_place hplace]

theorem receiveAll_records (st : Station) (k : RecordKind) (as : List k.Item) :
    (st.receiveAll (as.map (.record k))).1 =
      st.storeBuffer k ((k.buffer st.intake.buffers).offer as) := by
  induction as generalizing st with
  | nil => cases k <;> rfl
  | cons a rest ih =>
    have hfirst : (st.receiveAll ((a :: rest).map (.record k))).1 =
        ((st.receive (.record k a)).1.receiveAll (rest.map (.record k))).1 := rfl
    rw [hfirst, receive_record, ih]
    cases k <;> rfl

end Station

/-- The arrivals that make up a report. -/
def Report.arrivals (r : Report) : List Arrival :=
  [.metrics r.stats] ++
    [RecordKind.trace, .event, .errorEvent, .errorTrace, .sqlTrace].flatMap fun k =>
      (k.records r).map (.record k)

/-- A report is taken in by the arrivals that make it up. -/
theorem Station.accept_eq_receiveAll (st : Station) (r : Report) :
    { st with intake := st.intake.accept r } = (st.receiveAll r.arrivals).1 := by
  simp only [Report.arrivals, List.flatMap_cons, List.flatMap_nil, List.append_nil,
    receiveAll_append]
  rw [receiveAll_records, receiveAll_records, receiveAll_records, receiveAll_records,
    receiveAll_records]
  rfl

end Telemetry
