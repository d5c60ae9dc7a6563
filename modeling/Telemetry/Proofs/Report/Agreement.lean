import Telemetry.Proofs.Metric.Collecting
import Telemetry.Proofs.Report.Facts

/-!
# Records and metrics of one transaction agree

The metrics, the traces and the events of a transaction are made apart from each other, each as far as
it is wanted, and events also take in attributes from outside. What they say about the error, the Apdex
zone, the total time and the name of the transaction is the same all the same.
-/
namespace Telemetry

open Telemetry.Metric

namespace Report

/-- The event, the metrics, the error trace and the error event tell of the same error, or of none. -/
structure ErrorAgrees (r : Report) (errorEvents : Bool) : Prop where
  flag : ∀ e ∈ r.event, e.intrinsic.get? "error" = some (.bool r.errorTrace.isSome)
  counted : r.stats.overall.count "Errors/all" = r.errorTrace.isSome.toNat
  event : r.errorEvent.isSome = (r.errorTrace.isSome && errorEvents)

/-- With a target there is one zone in the event and in the metrics, without one there is none. -/
structure ZoneAgrees (r : Report) (target : Option Duration) : Prop where
  counted : ∀ t ∈ target, ∃ zone : Zone, (r.errorTrace.isSome → zone = .frustrating) ∧
    (∀ e ∈ r.event, e.intrinsic.get? "apdexPerfZone" = some (.text zone.letter)) ∧
    (∀ x ∈ r.name.apdexNames, r.stats.overall.get? x = some (.apdex (.once zone t))) ∧
    ∀ x a, r.stats.overall.get? x = some (.apdex a) → x ∈ r.name.apdexNames
  uncounted : target = none → (∀ x ∈ r.name.apdexNames, r.stats.overall.get? x = none) ∧
    ∀ x a, r.stats.overall.get? x ≠ some (.apdex a)
  outsideScope : ∀ x a, r.stats.own.get? x ≠ some (.apdex a)

/-- The event has the seconds of the one total that the metrics of total times have. -/
def TotalTimeAgrees (r : Report) : Prop :=
  ∃ total : Duration,
    (∀ e ∈ r.event, e.intrinsic.get? "totalTime" = some (.float total.inSeconds)) ∧
    (∀ x ∈ r.name.totalTimeNames, r.stats.overall.get? x = some (.timing (.once total total))) ∧
    ∀ x d, firstPart x ∈ ["WebTransactionTotalTime", "OtherTransactionTotalTime"] →
      r.stats.overall.get? x = some d → x ∈ r.name.totalTimeNames

/-- Everything goes by the same name. -/
structure Named (r : Report) (full : String) : Prop where
  scope : r.stats.scope = full
  trace : ∀ t ∈ r.trace, t.metricName = full
  event : ∀ e ∈ r.event, e.intrinsic.get? "name" = some (.text full)
  errorTrace : ∀ t ∈ r.errorTrace, t.path = full
  errorEvent : ∀ e ∈ r.errorEvent, e.intrinsic.get? "transactionName" = some (.text full)
  sqlTraces : ∀ t ∈ r.sqlTraces, t.transactionName = full

end Report

namespace ReportRules

variable (rules : ReportRules) (s : Snapshot) (name : MetricName)

theorem event_report : (rules.report s name).event = if rules.wanted.events then
    some (.ofTransaction s name (Forest.ofSpans s.spans).totalExclusive
      (Contribution.zone? (rules.context s name)) (rules.errorTrace? s name).isSome)
    else none := rfl

/-- Whatever the event of a report has among its facts can be found there. -/
theorem get?_event {key : String} {v : Attribute.Value}
    (h : (key, v) ∈ Event.transactionFacts s name (Forest.ofSpans s.spans).totalExclusive
      (Contribution.zone? (rules.context s name)) (rules.errorTrace? s name).isSome) :
    ∀ e ∈ (rules.report s name).event, e.intrinsic.get? key = some v := by
  intro e he
  rw [event_report] at he
  split at he
  · obtain rfl := Option.some.inj he
    exact Event.get?_ofTransaction h
  · cases he

variable {rules s name} in
theorem path_errorTrace? {t : ErrorTrace} (h : t ∈ rules.errorTrace? s name) :
    t.path = name.full := by
  rw [errorTrace?] at h
  split at h
  · obtain ⟨e, _, rfl⟩ := Option.map_eq_some_iff.1 h
    rfl
  · cases h

theorem named_report : (rules.report s name).Named name.full where
  scope := rfl
  trace t ht := by
    replace ht : t ∈ if rules.wanted.traces then
      TransactionTrace.ofForest? s (Forest.ofSpans s.spans) name else none := ht
    rw [TransactionTrace.ofForest?] at ht
    split_ifs at ht
    · cases ht
    · obtain rfl := Option.some.inj ht
      rfl
    · cases ht
  event := get?_event rules s name (by simp [Event.transactionFacts])
  errorTrace t ht := path_errorTrace? ht
  errorEvent e he := by
    replace he : e ∈ if rules.wanted.errorEvents then
      (rules.errorTrace? s name).map (Event.ofError s) else none := he
    split_ifs at he
    · obtain ⟨t, ht, rfl⟩ := Option.map_eq_some_iff.1 he
      rw [← path_errorTrace? ht]
      exact Event.get?_ofError (by simp [Event.errorFacts])
    · cases he
  sqlTraces t ht := by
    replace ht : t ∈ if rules.wanted.sqlTraces then SqlTrace.collect rules.runtimePrefix name
      s.facts.uri (Forest.ofSpans s.spans) else [] := ht
    split_ifs at ht
    · exact SqlTrace.transactionName_collect _ _ _ _ t ht
    · cases ht

variable {rules name} (hfirst : firstPart rules.runtimePrefix ∉ reservedParts)
  (hname : name.Regular)
include hfirst hname

theorem suited_report : (rules.report s name).stats.overall.Suited := by
  rw [stats_report]
  exact Stats.suited_overall hfirst hname

theorem errorAgrees_report : (rules.report s name).ErrorAgrees rules.wanted.errorEvents where
  flag := get?_event rules s name (by simp [Event.transactionFacts, report])
  counted := by
    have hall : "Errors/all" ∈ (rules.context s name).name.errorNames := List.mem_cons_self
    show _ = (rules.context s name).errorReported.toNat
    rw [stats_report, Table.count, Stats.overall_errors hfirst hname (by decide)]
    cases (rules.context s name).errorReported <;> simp [hall, Data.count, Timing.calls]
  event := by
    show (if rules.wanted.errorEvents then (rules.errorTrace? s name).map (Event.ofError s)
      else none).isSome = ((rules.errorTrace? s name).isSome && rules.wanted.errorEvents)
    cases rules.wanted.errorEvents <;> simp

theorem zoneAgrees_report : (rules.report s name).ZoneAgrees (rules.naming.targetFor name) where
  counted t ht := by
    have htarget : (rules.context s name).target = some t := ht
    have hget {x : String} (hx : Topic.ofName x = .apdex) :=
      Stats.overall_apdex_of_target hfirst (f := Forest.ofSpans s.spans) hname htarget hx
    refine ⟨.classify s.duration t (rules.errorTrace? s name).isSome, ?_, ?_, ?_, ?_⟩
    · intro herror
      exact if_pos herror
    · refine get?_event rules s name (List.mem_append_right _ ?_)
      rw [Contribution.zone?, htarget]
      exact List.mem_cons_self
    · intro x hx
      exact (hget (Topic.ofName_apdexNames hx)).trans (if_pos hx)
    · intro x a ha
      have htopic := (suited_report s hfirst hname).topic_eq_apdex ha
      by_contra hx
      have hnone := (hget htopic).trans (if_neg hx)
      cases ha.symm.trans hnone
  uncounted hnone := by
    have hget {x : String} (hx : Topic.ofName x = .apdex) :=
      Stats.overall_apdex_of_no_target hfirst (f := Forest.ofSpans s.spans)
        (c := rules.context s name) hname hnone hx
    refine ⟨fun x hx => hget (Topic.ofName_apdexNames hx), fun x a ha => ?_⟩
    have htopic := (suited_report s hfirst hname).topic_eq_apdex ha
    cases ha.symm.trans (hget htopic)
  outsideScope := Stats.own_ne_apdex hfirst (c := rules.context s name) hname

theorem totalTimeAgrees_report : (rules.report s name).TotalTimeAgrees := by
  have hget {x : String} (hx : Topic.ofName x = .totalTime) :=
    Stats.overall_totalTime hfirst (f := Forest.ofSpans s.spans)
      (c := rules.context s name) hname hx
  refine ⟨(Forest.ofSpans s.spans).totalExclusive, ?_, fun x hx => ?_, fun x d hx hd => ?_⟩
  · exact get?_event rules s name (by simp [Event.transactionFacts])
  · exact (hget (Topic.ofName_totalTimeNames hx)).trans (if_pos hx)
  · by_contra hnot
    have hnone := (hget (Topic.ofName_of_totalTime hx)).trans (if_neg hnot)
    cases hd.symm.trans hnone

end ReportRules

namespace Station

/-- Whatever a station was asked for before, what one more transaction yields is of one piece: all that
is offered tells of the same error, zone, total time and name, and the count of errors rises by one if
there is an error and stays as it is otherwise. -/
theorem reported_agrees (rules : ReportRules)
    (hfirst : firstPart rules.runtimePrefix ∉ reservedParts) (buffers : RecordBuffers)
    (told : Drops) (ds : List Demand) (s : Snapshot) (n : Nat) :
    let start : Station := ⟨⟨.empty, buffers⟩, told⟩
    let now := (start.serveAll rules ds).1
    (now.report rules s).2 = .reported n →
    ∃ r, rules.examine s = .report r ∧ (now.report rules s).1.intake = now.intake.accept r ∧
      r.name = rules.naming.nameOf s.name ∧ r.ErrorAgrees rules.wanted.errorEvents ∧
      (now.report rules s).1.intake.aggregate.overall.count "Errors/all" =
        now.intake.aggregate.overall.count "Errors/all" + r.errorTrace.isSome.toNat ∧
      r.ZoneAgrees (rules.naming.targetFor r.name) ∧ r.TotalTimeAgrees ∧ r.Named r.name.full := by
  intro start now hreported
  obtain ⟨r, hexamine, hreport⟩ | ⟨_, _, hnot⟩ := report_cases now rules s
  · have hname := rules.naming.regular_nameOf s.name
    have hsuited : now.intake.aggregate.overall.Suited := by
      refine aggregate_serveAll (P := (·.overall.Suited)) Table.suited_empty ?_
        Table.suited_empty ds
      intro a s ha
      rw [Aggregate.overall_collect]
      exact ha.addTable (ReportRules.suited_report s hfirst (rules.naming.regular_nameOf s.name))
    obtain rfl : r = rules.report s (rules.naming.nameOf s.name) :=
      ReportRules.eq_report_of_examine hexamine
    have herror := rules.errorAgrees_report s hfirst hname
    have hintake : (now.report rules s).1.intake =
        now.intake.accept (rules.report s (rules.naming.nameOf s.name)) := by rw [hreport]
    refine ⟨_, hexamine, hintake, rfl, herror, ?_, rules.zoneAgrees_report s hfirst hname,
      rules.totalTimeAgrees_report s hfirst hname, rules.named_report s _⟩
    rw [hintake, Intake.overall_accept,
      hsuited.count_addTable (ReportRules.suited_report s hfirst hname), herror.counted]
  · exact absurd hreported (hnot n)

/-- A failed request with a statement, for which the instrumentation denies the error. -/
def failedRequest : Snapshot where
  name := ⟨.web, "Uri", "users"⟩
  guid := "guid"
  startTime := .epoch
  duration := .ofMillis 9
  spans := [(Span.unfinished 0 "select" .datastore 0).tag Span.statementKey ⟨.text "select 1", .none⟩]
  facts :=
    { Facts.none with
      status := some 500
      attributes := ⟨[⟨.intrinsic, "error", .bool false, .only .transactionEvent⟩]⟩ }
  ignored := false
  moved := 0

theorem reported_agrees_failedRequest :
    let rules := ReportRules.ofSettings .standard
    let now := (serveAll rules ⟨⟨.empty, .noRoom⟩, .none⟩ [.report failedRequest]).1
    firstPart "Rust" ∉ reservedParts ∧ (now.report rules failedRequest).2 = .reported 0 ∧
      ∃ r, rules.examine failedRequest = .report r ∧ r.ErrorAgrees true ∧
        r.ZoneAgrees (some (.ofMillis 500)) ∧ r.TotalTimeAgrees ∧
        r.Named "WebTransaction/Uri/users" ∧ r.trace.isSome ∧ r.event.isSome ∧
        r.errorTrace.isSome ∧ r.errorEvent.isSome ∧ r.sqlTraces.length = 1 := by
  intro rules now
  have hfirst : firstPart "Rust" ∉ reservedParts := by decide
  have hreported : (now.report rules failedRequest).2 = .reported 0 := by decide +kernel
  obtain ⟨r, hexamine, _, _, herror, _, hzone, htotal, hnamed⟩ :=
    reported_agrees rules hfirst .noRoom .none [.report failedRequest] failedRequest 0 hreported
  obtain rfl := ReportRules.eq_report_of_examine hexamine
  have htarget : rules.naming.targetFor (rules.naming.nameOf failedRequest.name) =
      some (.ofMillis 500) := by decide +kernel
  have hfull : (rules.naming.nameOf failedRequest.name).full = "WebTransaction/Uri/users" := by
    decide +kernel
  refine ⟨hfirst, hreported, _, hexamine, herror, htarget ▸ hzone, htotal, hfull ▸ hnamed, ?_⟩
  decide +kernel

end Station

end Telemetry
