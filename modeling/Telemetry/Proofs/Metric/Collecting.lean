import Telemetry.Proofs.Harvest.Deliveries
import Telemetry.Proofs.Metric.Shares

/-!
# Metrics that are collected

What one more transaction does to the metrics under a name, in its own scope and overall, and to what
all scopes have under that name. An invariant of collecting holds of the metrics of a station whatever
was asked of it.
-/
namespace Telemetry

namespace Metric.Aggregate

variable (a : Aggregate) (s : Stats) (scope x : String)

theorem overall_collect : (a.collect s).overall = a.overall.addTable s.overall := rfl

theorem overall?_collect :
    (a.collect s).overall? x = (a.overall? x).merge Data.merge (s.overall.get? x) :=
  Table.get?_addTable a.overall s.overall x

theorem get?_scopeTable : (a.scopeTable scope).get? x = a.inScope? scope x := by
  rw [scopeTable, inScope?]
  cases a.scopes.get? scope <;> rfl

theorem inScope?_collect : (a.collect s).inScope? scope x =
    if scope = s.scope then (a.inScope? scope x).merge Data.merge (s.own.get? x)
    else a.inScope? scope x := by
  have hget : (a.collect s).scopes.get? scope = if scope = s.scope
      then some ((a.scopeTable s.scope).addTable s.own) else a.scopes.get? scope :=
    Dict.get?_insert ..
  rw [inScope?, hget]
  by_cases h : scope = s.scope
  · subst h
    rw [if_pos rfl, if_pos rfl, Option.bind_some, Table.get?_addTable, get?_scopeTable]
  · rw [if_neg h, if_neg h, inScope?]

theorem inScope?_collect_self : (a.collect s).inScope? s.scope x =
    (a.inScope? s.scope x).merge Data.merge (s.own.get? x) := by
  rw [inScope?_collect, if_pos rfl]

theorem inScope?_collect_of_ne (h : scope ≠ s.scope) :
    (a.collect s).inScope? scope x = a.inScope? scope x := by
  rw [inScope?_collect, if_neg h]

theorem count_scopeTable :
    (a.scopeTable scope).count x = ((a.inScope? scope x).map Data.count).getD 0 := by
  rw [Table.count, get?_scopeTable]

/-- All other scopes stay around that of the transaction, which may be new. -/
theorem keys_collect : ∃ before after, s.scope ∉ before ∧ s.scope ∉ after ∧
    (a.collect s).scopes.keys = before ++ s.scope :: after ∧
    (a.scopes.keys = before ++ s.scope :: after ∨
      a.scopes.keys = before ++ after ∧ ∀ x, a.inScope? s.scope x = none) := by
  obtain ⟨before, after, hbefore, hafter, hkeys, hold⟩ :=
    a.scopes.keys_insert s.scope ((a.scopeTable s.scope).addTable s.own)
  refine ⟨before, after, hbefore, hafter, hkeys, hold.imp id fun hnew => ⟨hnew.2, fun x => ?_⟩⟩
  rw [inScope?, hnew.1]
  rfl

/-- What the scopes have under a name, one after the other. -/
def across : List Data := a.scopes.keys.filterMap (a.inScope? · x)

/-- The scope of the transaction has more now, or is new, and all others have what they had. -/
theorem across_collect : ∃ before after,
    a.across x = before ++ (a.inScope? s.scope x).toList ++ after ∧
    (a.collect s).across x = before ++
      ((a.inScope? s.scope x).merge Data.merge (s.own.get? x)).toList ++ after := by
  obtain ⟨before, after, hbefore, hafter, hkeys, hold⟩ := a.keys_collect s
  have hsame (l : List String) (hl : s.scope ∉ l) :
      l.filterMap ((a.collect s).inScope? · x) = l.filterMap (a.inScope? · x) :=
    List.filterMap_congr fun scope hscope =>
      a.inScope?_collect_of_ne s scope x fun h => hl (h ▸ hscope)
  have hcons (b : Aggregate) (l : List String) :
      (s.scope :: l).filterMap (b.inScope? · x) =
        (b.inScope? s.scope x).toList ++ l.filterMap (b.inScope? · x) := by
    cases h : b.inScope? s.scope x <;> simp [h]
  refine ⟨before.filterMap (a.inScope? · x), after.filterMap (a.inScope? · x), ?_, ?_⟩
  · rw [across]
    rcases hold with hknown | ⟨hnew, hnone⟩
    · rw [hknown, List.filterMap_append, hcons, List.append_assoc]
    · rw [hnew, List.filterMap_append, hnone, Option.toList_none, List.append_nil]
  · rw [across, hkeys, List.filterMap_append, hcons, hsame before hbefore, hsame after hafter,
      inScope?_collect_self, List.append_assoc]

/-- The calls of all scopes under their own names. -/
def ownCalls : Nat := (a.scopes.keys.map fun scope => (a.scopeTable scope).count scope).sum

theorem ownCalls_collect : (a.collect s).ownCalls + (a.scopeTable s.scope).count s.scope =
    a.ownCalls + ((a.collect s).scopeTable s.scope).count s.scope := by
  obtain ⟨before, after, hbefore, hafter, hkeys, hold⟩ := a.keys_collect s
  have hsame (l : List String) (hl : s.scope ∉ l) :
      l.map (fun scope => ((a.collect s).scopeTable scope).count scope) =
        l.map fun scope => (a.scopeTable scope).count scope := by
    refine List.map_congr_left fun scope hscope => ?_
    rw [count_scopeTable, count_scopeTable,
      a.inScope?_collect_of_ne s scope scope fun h => hl (h ▸ hscope)]
  rw [ownCalls, ownCalls, hkeys, List.map_append, List.map_cons, hsame before hbefore,
    hsame after hafter, List.sum_append, List.sum_cons]
  rcases hold with hknown | ⟨hnew, hnone⟩
  · rw [hknown, List.map_append, List.map_cons, List.sum_append, List.sum_cons]
    omega
  · have hzero : (a.scopeTable s.scope).count s.scope = 0 := by
      rw [count_scopeTable, hnone]
      rfl
    rw [hnew, List.map_append, List.sum_append]
    omega

end Metric.Aggregate

/-- Buffers without room for any record. -/
def RecordBuffers.noRoom : RecordBuffers :=
  ⟨⟨[], 0, 0, 0⟩, ⟨[], 0, 0, 0⟩, ⟨[], 0, 0, 0⟩, ⟨[], 0, 0, 0⟩, ⟨[], 0, 0, 0⟩⟩

theorem Intake.overall_accept (i : Intake) (r : Report) :
    (i.accept r).aggregate.overall = i.aggregate.overall.addTable r.stats.overall := rfl

variable {ν μ : Type} [NameService ν] [ErrorMaker μ]

namespace ReportRules

theorem eq_report_of_examine {rules : ReportRules ν μ} {s : Snapshot} {r : Report}
    (h : rules.examine s = .report r) :
    r = rules.report s (NameService.nameOf rules.naming s.name) := by
  simp only [examine] at h
  split_ifs at h
  exact (Examination.report.inj h).symm

/-- Nothing keeps the transaction from being reported: it has spans, and neither its mark nor its name
says to ignore it. -/
def Reports (rules : ReportRules) (s : Snapshot) : Prop :=
  s.ignored = false ∧ s.spans.isEmpty = false ∧
    (rules.naming.nameOf s.name).full ∉ rules.naming.ignored

instance (rules : ReportRules) : DecidablePred rules.Reports := fun s =>
  inferInstanceAs (Decidable (s.ignored = false ∧ s.spans.isEmpty = false ∧
    (rules.naming.nameOf s.name).full ∉ rules.naming.ignored))

theorem reports_iff {rules : ReportRules} {s : Snapshot} :
    rules.Reports s ↔ ∃ r, rules.examine s = .report r := by
  have hname : (rules.naming.nameOf s.name).ignored = false ↔
      (rules.naming.nameOf s.name).full ∉ rules.naming.ignored := by
    rw [← List.contains_iff_mem, Bool.not_eq_true]
    exact Iff.rfl
  simp only [Reports, ← hname, examine]
  split_ifs with hignored hempty hunwanted <;> simp_all

theorem stats_report (rules : ReportRules ν μ) (s : Snapshot) (name : MetricName) :
    (rules.report s name).stats =
      .ofForest rules.runtimePrefix (.ofSpans s.spans) (rules.context s name) := rfl

end ReportRules

namespace Station

theorem metrics_harvest (st : Station) : st.harvest.2.metrics = st.intake.aggregate := rfl

/-- What collecting keeps holds of the metrics whatever was asked for. -/
theorem aggregate_serveAll {rules : ReportRules ν μ} {P : Metric.Aggregate → Prop}
    (hempty : P .empty)
    (hcollect : ∀ a s, P a →
      P (a.collect (rules.report s (NameService.nameOf rules.naming s.name)).stats))
    {st : Station} (hst : P st.intake.aggregate) (ds : List Demand) :
    P (st.serveAll rules ds).1.intake.aggregate := by
  induction ds generalizing st with
  | nil => exact hst
  | cons d rest ih =>
    refine ih ?_
    cases d with
    | harvest => exact hempty
    | report s =>
      show P (st.report rules s).1.intake.aggregate
      obtain ⟨r, hexamine, hreport⟩ | ⟨_, hsame, _⟩ := report_cases st rules s
      · rw [hreport, ReportRules.eq_report_of_examine hexamine]
        exact hcollect _ s hst
      · rw [hsame]
        exact hst

variable {rules : ReportRules}

/-- Harvests start over with empty metrics, and every report that is made is collected. -/
theorem aggregate_recent (P : List Snapshot → Metric.Aggregate → Prop) (hempty : P [] .empty)
    (hcollect : ∀ seen a s, rules.Reports s → P seen a →
      P (seen ++ [s]) (a.collect (rules.report s (rules.naming.nameOf s.name)).stats))
    {st : Station} (recent : List Snapshot)
    (hst : P (recent.filter (rules.Reports ·)) st.intake.aggregate) (ds : List Demand) :
    P ((ds.foldl Demand.extend recent).filter (rules.Reports ·))
      (st.serveAll rules ds).1.intake.aggregate := by
  induction ds generalizing st recent with
  | nil => exact hst
  | cons d rest ih =>
    refine ih (d.extend recent) ?_
    cases d with
    | harvest => exact hempty
    | report s =>
      show P ((recent ++ [s]).filter (rules.Reports ·)) (st.report rules s).1.intake.aggregate
      rw [List.filter_append]
      obtain ⟨r, hexamine, hreport⟩ | ⟨_, hsame, hnot⟩ := report_cases st rules s
      · have hreports : rules.Reports s := ReportRules.reports_iff.2 ⟨r, hexamine⟩
        rw [hreport, ReportRules.eq_report_of_examine hexamine,
          List.filter_cons_of_pos (by simpa using hreports)]
        exact hcollect _ _ s hreports hst
      · have hreports : ¬ rules.Reports s := by
          intro hreports
          obtain ⟨r, hexamine⟩ := ReportRules.reports_iff.1 hreports
          refine hnot r.inconsistencies ?_
          rw [Station.report, Intake.report, hexamine]
        rw [hsame, List.filter_cons_of_neg (by simpa using hreports), List.filter_nil,
          List.append_nil]
        exact hst

end Station

end Telemetry
