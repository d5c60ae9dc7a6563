import Telemetry.Proofs.Harvest.Kinds

/-!
# What harvests deliver

A station is asked for reports and harvests in any order. The buffers always are as if they were new
and had been offered the records of the reports since the last harvest. A harvest therefore delivers
the first of these, tells of all others as dropped, and counts the reported transactions.
-/
namespace Telemetry

inductive Demand
  | report (s : Snapshot)
  | harvest

inductive Reply
  | outcome (o : Outcome)
  | payload (p : Payload)

variable {ν μ : Type} [NameService ν] [ErrorMaker μ]

namespace Station

def serve (rules : ReportRules ν μ) (st : Station) : Demand → Station × Reply
  | .report s => ((st.report rules s).1, .outcome (st.report rules s).2)
  | .harvest => (st.harvest.1, .payload st.harvest.2)

/-- Serves one demand after the other; the replies are in their order. -/
def serveAll (rules : ReportRules ν μ) (st : Station) : List Demand → Station × List Reply
  | [] => (st, [])
  | d :: ds =>
    let (st, reply) := st.serve rules d
    let (st, replies) := st.serveAll rules ds
    (st, reply :: replies)

end Station

/-- What waits for the next harvest after one more demand. -/
def Demand.extend (recent : List Snapshot) : Demand → List Snapshot
  | report s => recent ++ [s]
  | harvest => []

/-- The transactions that came after the last harvest. -/
def recentOf (ds : List Demand) : List Snapshot := ds.foldl Demand.extend []

def Reply.tally (n : Nat) : Reply → Nat
  | outcome (.reported _) => n + 1
  | outcome _ => n
  | payload _ => 0

/-- How many transactions are said to be reported after the last payload. -/
def reportedOf (rs : List Reply) : Nat := rs.foldl Reply.tally 0

/-- The records that a transaction is worth. -/
def ReportRules.offers (rules : ReportRules ν μ) (k : RecordKind) (s : Snapshot) : List k.Item :=
  match rules.examine s with
  | .report r => k.records r
  | _ => []

namespace Station

variable {sizes : BufferSizes} {rules : ReportRules ν μ} {st : Station}

/-- The state of a station in terms of what came after the last harvest. -/
structure Tracks (sizes : BufferSizes) (rules : ReportRules ν μ) (st : Station)
    (recent : List Snapshot) (reported : Nat) : Prop where
  stocked : ∀ k : RecordKind, (k.buffer st.intake.buffers).Stocked (k.capacity sizes)
    (k.drops st.toldDrops) (recent.flatMap (rules.offers k))
  transactions : st.intake.aggregate.transactions = reported

theorem tracks_ofSizes (rules : ReportRules ν μ) (h : 0 < sizes.partitions) :
    ∃ st, Station.ofSizes sizes = .ok st ∧ Tracks sizes rules st [] 0 := by
  obtain ⟨b, hb, hstocked⟩ := RecordKind.stocked_ofSizes sizes h
  refine ⟨⟨⟨.empty, b⟩, .none⟩, ?_, ?_, rfl⟩
  · rw [Station.ofSizes, Intake.ofSizes, hb]
    rfl
  · intro k
    cases k <;> exact hstocked _

/-- A transaction either adds its records to all buffers and to the count, or changes nothing. -/
theorem report_cases (st : Station) (rules : ReportRules ν μ) (s : Snapshot) :
    (∃ r, rules.examine s = .report r ∧ st.report rules s =
      ({ st with intake := st.intake.accept r }, .reported r.inconsistencies)) ∨
    ((∀ k, rules.offers k s = []) ∧ (st.report rules s).1 = st ∧
      ∀ n, (st.report rules s).2 ≠ .reported n) := by
  simp only [Station.report, Intake.report, ReportRules.offers]
  cases rules.examine s with
  | report r => exact Or.inl ⟨r, rfl, rfl⟩
  | flagged | empty | unwanted => exact Or.inr ⟨fun _ => rfl, rfl, fun _ h => nomatch h⟩

variable {recent : List Snapshot} {reported : Nat}

theorem Tracks.report (h : Tracks sizes rules st recent reported) (s : Snapshot) :
    Tracks sizes rules (st.report rules s).1 (recent ++ [s])
      ((Reply.outcome (st.report rules s).2).tally reported) := by
  obtain ⟨r, hexamine, hreport⟩ | ⟨hoffers, hsame, hnot⟩ := report_cases st rules s
  · rw [hreport]
    refine ⟨fun k => ?_, ?_⟩
    · have hoffers : rules.offers k s = k.records r := by
        rw [ReportRules.offers, hexamine]
      rw [List.flatMap_append, List.flatMap_singleton, hoffers, RecordKind.buffer_accept]
      exact (h.stocked k).offer (k.records r)
    · exact congrArg (· + 1) h.transactions
  · rw [hsame]
    refine ⟨fun k => ?_, ?_⟩
    · rw [List.flatMap_append, List.flatMap_singleton, hoffers, List.append_nil]
      exact h.stocked k
    · cases hout : (st.report rules s).2 with
      | reported n => exact absurd hout (hnot n)
      | ignored | failed => exact h.transactions

theorem Tracks.harvest (h : Tracks sizes rules st recent reported) :
    Tracks sizes rules st.harvest.1 [] 0 := by
  refine ⟨fun k => ?_, rfl⟩
  rw [RecordKind.buffer_harvest, RecordKind.toldDrops_harvest]
  exact (h.stocked k).drain

theorem Tracks.serve (h : Tracks sizes rules st recent reported) (d : Demand) :
    Tracks sizes rules (st.serve rules d).1 (d.extend recent)
      ((st.serve rules d).2.tally reported) := by
  cases d with
  | report s => exact h.report s
  | harvest => exact h.harvest

theorem Tracks.serveAll (h : Tracks sizes rules st recent reported) (ds : List Demand) :
    Tracks sizes rules (st.serveAll rules ds).1 (ds.foldl Demand.extend recent)
      ((st.serveAll rules ds).2.foldl Reply.tally reported) := by
  induction ds generalizing st recent reported with
  | nil => exact h
  | cons d rest ih => exact ih (h.serve d)

theorem Tracks.delivered (h : Tracks sizes rules st recent reported) (k : RecordKind) :
    k.delivered st.harvest.2 = (recent.flatMap (rules.offers k)).take (k.capacity sizes) := by
  rw [RecordKind.delivered_harvest]
  exact (h.stocked k).drained

theorem Tracks.dropped (h : Tracks sizes rules st recent reported) (k : RecordKind) :
    k.drops st.harvest.2.dropped = (recent.flatMap (rules.offers k)).length -
      min (k.capacity sizes) (recent.flatMap (rules.offers k)).length := by
  rw [RecordKind.drops_harvest, (h.stocked k).rejected]
  omega

/-- Whatever a station was asked for before, a harvest delivers of each kind the first of the
records that were offered since the harvest before, as many as there is room for, and tells how many
others there were. It counts the transactions that were reported; those that were not leave no trace. -/
theorem harvest_delivers (sizes : BufferSizes) (hpartitions : 0 < sizes.partitions)
    (rules : ReportRules ν μ) :
    ∃ st, Station.ofSizes sizes = .ok st ∧ ∀ ds : List Demand,
      let (now, replies) := st.serveAll rules ds
      let payload := now.harvest.2
      let offered := fun k : RecordKind => (recentOf ds).flatMap (rules.offers k)
      (∀ k : RecordKind, k.delivered payload = (offered k).take (k.capacity sizes) ∧
        k.drops payload.dropped =
          (offered k).length - min (k.capacity sizes) (offered k).length) ∧
      payload.metrics.transactions = reportedOf replies ∧
      ∀ s, (∀ n, (now.report rules s).2 ≠ .reported n) →
        (∀ k : RecordKind, rules.offers k s = []) ∧ (now.report rules s).1 = now := by
  obtain ⟨st, hst, hnew⟩ := tracks_ofSizes rules hpartitions
  refine ⟨st, hst, fun ds => ?_⟩
  have htracks := hnew.serveAll ds
  refine ⟨fun k => ⟨htracks.delivered k, htracks.dropped k⟩, htracks.transactions, ?_⟩
  intro s hnot
  obtain ⟨r, _, hreport⟩ | ⟨hoffers, hsame, _⟩ := report_cases (st.serveAll rules ds).1 rules s
  · rw [hreport] at hnot
    exact absurd rfl (hnot r.inconsistencies)
  · exact ⟨hoffers, hsame⟩

def oneSpan : Snapshot :=
  ((Transaction.start ⟨.web, "Uri", "users"⟩ "guid" .epoch).create "request" .method 0).snapshot
    (.ofMillis 9)

/-- Three events come after the first harvest, and there is room for two. -/
theorem harvest_delivers_two_of_three :
    0 < 3 ∧ ∃ st, Station.ofSizes ⟨1, 2, 0, 1, 1, 3⟩ = .ok st ∧
      let (now, replies) := st.serveAll (.ofSettings .standard)
        [.report oneSpan, .harvest, .report oneSpan, .report oneSpan, .report oneSpan]
      now.harvest.2.events.length = 2 ∧ now.harvest.2.dropped.events = 1 ∧
        now.harvest.2.metrics.transactions = 3 ∧ reportedOf replies = 3 := by
  obtain ⟨st, hst, h⟩ := harvest_delivers ⟨1, 2, 0, 1, 1, 3⟩ (by decide) (.ofSettings .standard)
  obtain ⟨hkinds, htransactions, _⟩ :=
    h [.report oneSpan, .harvest, .report oneSpan, .report oneSpan, .report oneSpan]
  obtain ⟨hdelivered, hdropped⟩ := hkinds .event
  exact ⟨by decide, st, hst, congrArg List.length hdelivered, hdropped, htransactions, rfl⟩

end Station

end Telemetry
