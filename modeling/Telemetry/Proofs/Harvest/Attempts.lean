import Telemetry.Harvest.Run
import Telemetry.Proofs.Harvest.Arrivals
import Telemetry.Proofs.Metric.Gains

/-!
# What a run sends

A run is seen as rounds: first arrivals, then a harvest, at a tick or in the end when the run is
stopped. The sender is handed the payloads of the harvests in their order, each once, or twice in
succession if it was handed back at first and another round follows. Everything that arrives is in
the payload of its own round.
-/
namespace Telemetry

/-- A later payload has what the transactions brought that were collected. -/
theorem Gathers.gains {p q : Payload} {rs : List Receipt} (h : Gathers p rs q) :
    p.metrics.Gains (rs.filterMap Receipt.stats?) q.metrics := by
  rw [h.metrics]
  exact Metric.Aggregate.gains_foldl _ _

namespace Station

/-- Arrivals and the harvest after them. -/
def round (st : Station) (as : List Arrival) : Station × List Receipt × Payload :=
  let (st, receipts) := st.receiveAll as
  let (st, p) := st.harvest
  (st, receipts, p)

/-- One round after the other, with the receipts and the payload of each. -/
def rounds (st : Station) : List (List Arrival) → Station × List (List Receipt × Payload)
  | [] => (st, [])
  | as :: rest =>
    let (st, first) := st.round as
    let (st, later) := st.rounds rest
    (st, first :: later)

variable {st : Station}

theorem gathers_round (hfair : st.Fair) (as : List Arrival) :
    Gathers st.pending (st.round as).2.1 (st.round as).2.2 := gathers_receiveAll hfair as

theorem pending_round (st : Station) (as : List Arrival) : (st.round as).1.pending = .nothing :=
  pending_harvest _

/-- The payload of each round tells of its own arrivals, and the first also of what was there. -/
theorem gathers_rounds (hfair : st.Fair) (visits : List (List Arrival)) (i : Nat)
    (rs : List Receipt) (p : Payload) (h : (st.rounds visits).2[i]? = some (rs, p)) :
    Gathers (if i = 0 then st.pending else .nothing) rs p := by
  induction visits generalizing st i with
  | nil => cases h
  | cons as rest ih =>
    cases i with
    | zero =>
      obtain ⟨rfl, rfl⟩ := Prod.mk.inj (Option.some.inj h)
      exact gathers_round hfair as
    | succ i =>
      have hnext := ih (fair_harvest (st.receiveAll as).1) i h
      rw [pending_harvest, ite_self] at hnext
      exact hnext

/-- Every arrival of a round has its receipt there. -/
theorem arrivals_rounds (st : Station) (visits : List (List Arrival)) :
    (st.rounds visits).2.map (fun round => round.1.map Receipt.arrival) = visits := by
  induction visits generalizing st with
  | nil => rfl
  | cons as rest ih =>
    exact congrArg₂ List.cons (arrivals_receiveAll st as) (ih (st.round as).1)

theorem length_rounds (st : Station) (visits : List (List Arrival)) :
    (st.rounds visits).2.length = visits.length := by
  induction visits generalizing st with
  | nil => rfl
  | cons as rest ih => exact congrArg (· + 1) (ih (st.round as).1)

theorem pending_rounds (st : Station) (visits : List (List Arrival)) (h : visits ≠ []) :
    (st.rounds visits).1.pending = .nothing := by
  induction visits generalizing st with
  | nil => exact absurd rfl h
  | cons as rest ih =>
    cases rest with
    | nil => exact pending_round st as
    | cons bs rest => exact ih (st.round as).1 (List.cons_ne_nil _ _)

end Station

namespace Harvest

/-- The attempts at sending the payloads of successive harvests. One with nothing in it is not sent.
One that is handed back is tried again, once, before the next harvest, if there is one. -/
inductive Sent : List Payload → List Attempt → Prop
  | nil : Sent [] []
  | skipped {ps : List Payload} {as : List Attempt} : Sent ps as → Sent (.nothing :: ps) as
  | delivered {p : Payload} {ps : List Payload} {as : List Attempt} :
      p ≠ .nothing → Sent ps as → Sent (p :: ps) (⟨p, true⟩ :: as)
  | retried {p : Payload} {ps : List Payload} {as : List Attempt} (again : Bool) :
      p ≠ .nothing → ps ≠ [] → Sent ps as → Sent (p :: ps) (⟨p, false⟩ :: ⟨p, again⟩ :: as)
  | lost {p : Payload} : p ≠ .nothing → Sent [p] [⟨p, false⟩]

namespace Run

def receive (r : Run) (as : List Arrival) : Run := { r with station := (r.station.receiveAll as).1 }

/-- A run with the arrivals before each tick, and before it is stopped. -/
def course (sender : Sender) (r : Run) : List (List Arrival) → List Arrival → Run
  | [], last => stop sender (r.receive last)
  | as :: rest, last => course sender (flush sender (r.receive as)) rest last

variable {sender : Sender} {r : Run}

theorem send_eq (sender : Sender) (r : Run) (p : Payload) :
    send sender r p = ({ r with attempts := r.attempts ++ [⟨p, sender r.attempts.length⟩] },
      if sender r.attempts.length then none else some p) := rfl

theorem retry_of_none (h : r.held = none) : retry sender r = r := by
  rw [retry, h]

theorem retry_of_some {p : Payload} (h : r.held = some p) :
    (retry sender r).station = r.station ∧ (retry sender r).held = none ∧
      (retry sender r).attempts = r.attempts ++ [⟨p, sender r.attempts.length⟩] := by
  rw [retry, h]
  simp only [send_eq, tell]
  split <;> exact ⟨rfl, rfl, rfl⟩

theorem station_retry (sender : Sender) (r : Run) : (retry sender r).station = r.station := by
  cases hheld : r.held with
  | none => rw [retry_of_none hheld]
  | some p => exact (retry_of_some hheld).1

theorem held_retry (sender : Sender) (r : Run) : (retry sender r).held = none := by
  cases hheld : r.held with
  | none => rw [retry_of_none hheld, hheld]
  | some p => exact (retry_of_some hheld).2.1

/-- A retry is about what is held and not about what has arrived since. -/
theorem attempts_retry_congr {q : Run} (hheld : q.held = r.held) (hattempts : q.attempts = r.attempts) :
    (retry sender q).attempts = (retry sender r).attempts := by
  cases h : r.held with
  | none => rw [retry_of_none h, retry_of_none (hheld.trans h), hattempts]
  | some p => rw [(retry_of_some h).2.2, (retry_of_some (hheld.trans h)).2.2, hattempts]

theorem harvestAndSend_of_isEmpty (sender : Sender) (h : r.station.harvest.2.isEmpty = true) :
    (harvestAndSend sender r).station = r.station.harvest.1 ∧
      (harvestAndSend sender r).held = r.held ∧
      (harvestAndSend sender r).attempts = r.attempts := by
  simp only [harvestAndSend, if_pos h, tell, and_self]

theorem harvestAndSend_of_not_isEmpty (sender : Sender) (h : r.station.harvest.2.isEmpty = false)
    (hheld : r.held = none) :
    (harvestAndSend sender r).station = r.station.harvest.1 ∧
      (harvestAndSend sender r).held =
        (if sender r.attempts.length then none else some r.station.harvest.2) ∧
      (harvestAndSend sender r).attempts =
        r.attempts ++ [⟨r.station.harvest.2, sender r.attempts.length⟩] := by
  simp only [harvestAndSend, h, send_eq, tell]
  cases sender r.attempts.length
  · simp
  · simp [hheld]

/-- What a flush does once the held payload has been tried again. -/
theorem flush_cases (sender : Sender) (r : Run) :
    (flush sender r).station = r.station.harvest.1 ∧
      ((r.station.harvest.2 = .nothing ∧ (flush sender r).held = none ∧
          (flush sender r).attempts = (retry sender r).attempts) ∨
        (r.station.harvest.2 ≠ .nothing ∧ (flush sender r).held = none ∧
          (flush sender r).attempts =
            (retry sender r).attempts ++ [⟨r.station.harvest.2, true⟩]) ∨
        (r.station.harvest.2 ≠ .nothing ∧ (flush sender r).held = some r.station.harvest.2 ∧
          (flush sender r).attempts =
            (retry sender r).attempts ++ [⟨r.station.harvest.2, false⟩])) := by
  have hheld := held_retry sender r
  rw [flush, ← station_retry sender r]
  by_cases hnothing : (retry sender r).station.harvest.2 = .nothing
  · have hempty := Payload.isEmpty_iff.mpr hnothing
    obtain ⟨hstation, hheld', hattempts⟩ := harvestAndSend_of_isEmpty sender hempty
    exact ⟨hstation, Or.inl ⟨hnothing, hheld'.trans hheld, hattempts⟩⟩
  · have hempty := eq_false_of_ne_true (mt Payload.isEmpty_iff.mp hnothing)
    obtain ⟨hstation, hheld', hattempts⟩ := harvestAndSend_of_not_isEmpty sender hempty hheld
    refine ⟨hstation, Or.inr ?_⟩
    cases hsender : sender (retry sender r).attempts.length with
    | true =>
      rw [hsender] at hheld' hattempts
      exact Or.inl ⟨hnothing, hheld', hattempts⟩
    | false =>
      rw [hsender] at hheld' hattempts
      exact Or.inr ⟨hnothing, hheld', hattempts⟩

theorem stop_eq (sender : Sender) (r : Run) :
    (stop sender r).station = r.station.harvest.1 ∧ (stop sender r).held = none ∧
      (stop sender r).attempts = (flush sender (r.tell [.stopping])).attempts := by
  obtain ⟨hstation, _⟩ := flush_cases sender (r.tell [.stopping])
  rw [stop]
  cases hheld : (flush sender (r.tell [.stopping])).held with
  | none =>
    simp only [hheld, and_true]
    exact hstation
  | some p =>
    simp only
    exact ⟨hstation, trivial, rfl⟩

theorem station_course (sender : Sender) (r : Run) (visits : List (List Arrival))
    (last : List Arrival) :
    (course sender r visits last).station = (r.station.rounds (visits ++ [last])).1 ∧
      (course sender r visits last).held = none := by
  induction visits generalizing r with
  | nil =>
    obtain ⟨hstation, hheld, _⟩ := stop_eq sender (r.receive last)
    exact ⟨hstation, hheld⟩
  | cons as rest ih =>
    obtain ⟨hstation, _⟩ := flush_cases sender (r.receive as)
    have hrest := ih (flush sender (r.receive as))
    rw [hstation] at hrest
    exact hrest

/-- Once the held payload has been tried again, the attempts are those of the rounds to come. -/
theorem sent_course (sender : Sender) (r : Run) (visits : List (List Arrival))
    (last : List Arrival) :
    ∃ later, (course sender r visits last).attempts = (retry sender r).attempts ++ later ∧
      Sent ((r.station.rounds (visits ++ [last])).2.map Prod.snd) later := by
  induction visits generalizing r with
  | nil =>
    let q := (r.receive last).tell [.stopping]
    have hretry : (retry sender q).attempts = (retry sender r).attempts :=
      attempts_retry_congr rfl rfl
    have hrounds : (r.station.rounds ([] ++ [last])).2.map Prod.snd = [q.station.harvest.2] := rfl
    obtain ⟨_, ⟨hp, _, hattempts⟩ | ⟨hp, _, hattempts⟩ | ⟨hp, _, hattempts⟩⟩ :=
      flush_cases sender q
    all_goals
      rw [hretry, ← (stop_eq sender (r.receive last)).2.2] at hattempts
      rw [hrounds]
    · rw [hp]
      exact ⟨[], hattempts.trans (List.append_nil _).symm, .skipped .nil⟩
    · exact ⟨_, hattempts, .delivered hp .nil⟩
    · exact ⟨_, hattempts, .lost hp⟩
  | cons as rest ih =>
    have hretry : (retry sender (r.receive as)).attempts = (retry sender r).attempts :=
      attempts_retry_congr rfl rfl
    obtain ⟨later, hlater, hsent⟩ := ih (flush sender (r.receive as))
    obtain ⟨hstation, hcases⟩ := flush_cases sender (r.receive as)
    rw [hstation] at hsent
    rw [hretry] at hcases
    have hmore : ((r.receive as).station.harvest.1.rounds (rest ++ [last])).2.map Prod.snd ≠ [] := by
      refine List.ne_nil_of_length_pos ?_
      rw [List.length_map, Station.length_rounds, List.length_append]
      exact Nat.succ_pos _
    have hrounds : (r.station.rounds (as :: rest ++ [last])).2.map Prod.snd =
        (r.receive as).station.harvest.2 ::
          ((r.receive as).station.harvest.1.rounds (rest ++ [last])).2.map Prod.snd := rfl
    rw [hrounds]
    obtain ⟨hp, hheld, hattempts⟩ | ⟨hp, hheld, hattempts⟩ | ⟨hp, hheld, hattempts⟩ := hcases
    · rw [retry_of_none hheld, hattempts] at hlater
      rw [hp]
      exact ⟨later, hlater, .skipped hsent⟩
    · rw [retry_of_none hheld, hattempts, List.append_assoc] at hlater
      exact ⟨_, hlater, .delivered hp hsent⟩
    · rw [(retry_of_some hheld).2.2, hattempts, List.append_assoc, List.append_assoc] at hlater
      exact ⟨_, hlater, .retried _ hp hmore hsent⟩

/-- Every attempt went as the sender has it. -/
def Heeded (sender : Sender) (as : List Attempt) : Prop :=
  ∀ i a, as[i]? = some a → a.delivered = sender i

theorem Heeded.snoc {as : List Attempt} (h : Heeded sender as) (p : Payload) :
    Heeded sender (as ++ [⟨p, sender as.length⟩]) := by
  intro i a ha
  rw [List.getElem?_append] at ha
  split_ifs at ha with hi
  · exact h i a ha
  · obtain ⟨hlt, rfl⟩ := List.getElem?_eq_some_iff.mp ha
    rw [List.length_singleton] at hlt
    have hlast : i = as.length := by omega
    rw [List.getElem_singleton, hlast]

theorem heeded_retry (h : Heeded sender r.attempts) : Heeded sender (retry sender r).attempts := by
  cases hheld : r.held with
  | none =>
    rw [retry_of_none hheld]
    exact h
  | some p =>
    rw [(retry_of_some hheld).2.2]
    exact h.snoc p

theorem heeded_flush (h : Heeded sender r.attempts) : Heeded sender (flush sender r).attempts := by
  have hretry := heeded_retry h
  cases hempty : (retry sender r).station.harvest.2.isEmpty with
  | true =>
    rw [flush, (harvestAndSend_of_isEmpty sender hempty).2.2]
    exact hretry
  | false =>
    rw [flush, (harvestAndSend_of_not_isEmpty sender hempty (held_retry sender r)).2.2]
    exact hretry.snoc _

theorem heeded_course (h : Heeded sender r.attempts) (visits : List (List Arrival))
    (last : List Arrival) : Heeded sender (course sender r visits last).attempts := by
  induction visits generalizing r with
  | nil =>
    rw [course, (stop_eq sender (r.receive last)).2.2]
    exact heeded_flush h
  | cons as rest ih => exact ih (heeded_flush h)

/-- A run of a station that has told of no drops yet. The attempts are those of the payloads of its
rounds, and go as the sender has it. Every payload gathers what arrived in its round, and the first
also what was there before. When the run is over nothing is left. -/
theorem course_sends (sender : Sender) (intake : Intake) (visits : List (List Arrival))
    (last : List Arrival) :
    let st : Station := ⟨intake, .none⟩
    let r := course sender (start st) visits last
    let rounds := (st.rounds (visits ++ [last])).2
    rounds.length = visits.length + 1 ∧
      rounds.map (fun round => round.1.map Receipt.arrival) = visits ++ [last] ∧
      Sent (rounds.map Prod.snd) r.attempts ∧
      (∀ i a, r.attempts[i]? = some a → a.delivered = sender i) ∧
      (∀ i rs p, rounds[i]? = some (rs, p) →
        let before := if i = 0 then st.pending else .nothing
        Gathers before rs p ∧
          before.metrics.Gains (rs.filterMap Receipt.stats?) p.metrics) ∧
      r.station.pending = .nothing ∧ r.held = none := by
  intro st r rounds
  have hfair : st.Fair := fun k => by cases k <;> exact Nat.zero_le _
  obtain ⟨hstation, hheld⟩ := station_course sender (start st) visits last
  obtain ⟨later, hlater, hsent⟩ := sent_course sender (start st) visits last
  have hempty : Heeded sender (start st).attempts := fun i a h => nomatch h
  refine ⟨?_, Station.arrivals_rounds st _, ?_, heeded_course hempty visits last,
    fun i rs p hround => ?_, ?_, hheld⟩
  · rw [Station.length_rounds, List.length_append, List.length_singleton]
  · have hattempts : r.attempts = later := by
      rw [retry_of_none rfl] at hlater
      exact hlater
    rw [hattempts]
    exact hsent
  · have hgathers := Station.gathers_rounds hfair _ i rs p hround
    exact ⟨hgathers, hgathers.gains⟩
  · rw [hstation]
    exact Station.pending_rounds st _ (List.append_ne_nil_of_right_ne_nil _ (List.cons_ne_nil _ _))

/-- An intake with room for one record of each kind. -/
def smallIntake : Intake := ⟨.empty, ⟨⟨[⟨1, []⟩], 1, 0, 0⟩, ⟨[⟨1, []⟩], 1, 0, 0⟩,
  ⟨[⟨1, []⟩], 1, 0, 0⟩, ⟨[⟨1, []⟩], 1, 0, 0⟩, ⟨[⟨1, []⟩], 1, 0, 0⟩⟩⟩

def statementArrival (statement : String) : Arrival :=
  .record .sqlTrace ⟨0, "WebTransaction/Uri/a", none, "Rust/select", statement, 1, 0, 0, 0⟩

def orderArrival (millis : Nat) (failed : Bool) : Arrival :=
  .metrics (Metric.Aggregate.order (.ofMillis millis) failed)

/-- Nothing is ever delivered: the first payload, which tells of two transactions and also of a drop, is
sent twice, the round without arrivals sends nothing, and the last payload is lost. -/
theorem course_sends_failing :
    let visits := [[orderArrival 40 false, statementArrival "a", statementArrival "b",
      orderArrival 500 true], []]
    let last := [statementArrival "c"]
    let r := course (fun _ => false) (start ⟨smallIntake, .none⟩) visits last
    let rounds := (Station.rounds ⟨smallIntake, .none⟩ (visits ++ [last])).2
    Sent (rounds.map Prod.snd) r.attempts ∧ r.station.pending = .nothing ∧
      r.attempts.map (·.payload.sqlTraces.map (·.statement)) = [["a"], ["a"], ["c"]] ∧
      r.attempts.map (·.payload.dropped.sqlTraces) = [1, 1, 0] ∧
      r.attempts.map (·.payload.metrics.transactions) = [2, 2, 0] ∧
      ∃ rs p, rounds[0]? = some (rs, p) ∧ p.metrics.transactions = 2 ∧
        Metric.Data.Recaps (p.metrics.overall? "WebTransaction")
          [.timing (.once (.ofMillis 40) (.ofMillis 40)),
            .timing (.once (.ofMillis 500) (.ofMillis 500))] := by
  intro visits last r rounds
  obtain ⟨_, _, hsent, _, hgathers, hpending, _⟩ :=
    course_sends (fun _ => false) smallIntake visits last
  obtain ⟨_, hgains⟩ := hgathers 0 _ _ rfl
  have hbrought (millis : Nat) (failed : Bool) :
      (Metric.Aggregate.order (.ofMillis millis) failed).overall.get? "WebTransaction" =
        some (.timing (.once (.ofMillis millis) (.ofMillis millis))) := by
    have hname : MetricName.Regular ⟨MetricName.webFamily, "Uri/orders", false⟩ :=
      ⟨.inl rfl, by decide⟩
    rw [Metric.Aggregate.order, Metric.Stats.overall_duration (by decide) hname (by decide)]
    rfl
  let brought := [(40, false), (500, true)].filterMap fun c =>
    (Metric.Aggregate.order (.ofMillis c.1) c.2).overall.get? "WebTransaction"
  have haccounts : Metric.Data.Accounts _ brought := hgains.overall "WebTransaction"
  have hrecaps := haccounts.recaps fun d hd => by
    obtain ⟨c, _, hc⟩ := List.mem_filterMap.mp hd
    exact Metric.Stats.whole_ofForest (.inr hc)
  simp only [brought, List.filterMap_cons, List.filterMap_nil, hbrought] at hrecaps
  exact ⟨hsent, hpending, rfl, rfl, rfl, _, _, rfl, hgains.transactions, hrecaps⟩

end Run

end Harvest

end Telemetry
