import Telemetry.Proofs.Metric.Collecting
import Telemetry.Proofs.Metric.Tallies

/-!
# Errors and zones of what is harvested

The counters of a harvest sort the transactions that it reports. Each has an error or none, for a reason
that its facts give; each web transaction with a target is in one zone of Apdex. The names of nodes stay
apart from these counters as long as the runtime prefix does not start like them.
-/
namespace Telemetry

open Telemetry.Metric

namespace ReportRules

variable (rules : ReportRules) (s : Snapshot)

/-- An error was noticed, or else the status is an error that is not ignored, and errors are wanted. -/
def Erred : Prop :=
  rules.wanted.errors = true ∧ (s.facts.errors.isEmpty = false ∨
    ∃ code ∈ s.facts.status, 400 ≤ code ∧ code ∉ rules.errors.ignoredStatuses)

instance : DecidablePred rules.Erred := fun s =>
  inferInstanceAs (Decidable (rules.wanted.errors = true ∧ (s.facts.errors.isEmpty = false ∨
    ∃ code ∈ s.facts.status, 400 ≤ code ∧ code ∉ rules.errors.ignoredStatuses)))

/-- The target for the full name of a web transaction, or else the common one. -/
def target? : Option Duration :=
  match s.name.category with
  | .web => (rules.naming.overrides.get? ("WebTransaction/" ++ (s.name.group ++ "/" ++ s.name.name))).or
    rules.naming.target
  | .other => none

/-- What Apdex makes of the transaction, if anything. -/
def case? : Option Case := (rules.target? s).map fun t => ⟨s.duration, t, decide (rules.Erred s)⟩

variable {s} in
theorem isSome_finding? {errors : ErrorRules} : (errors.finding? s).isSome = true ↔
    s.facts.errors.isEmpty = false ∨
      ∃ code ∈ s.facts.status, 400 ≤ code ∧ code ∉ errors.ignoredStatuses := by
  rw [ErrorRules.finding?]
  cases s.facts.errors with
  | cons e rest => simp
  | nil =>
    cases s.facts.status with
    | none => simp
    | some code => simp [Option.filter, ErrorRules.isErrorStatus]

theorem isSome_errorTrace? (name : MetricName) :
    (rules.errorTrace? s name).isSome = decide (rules.Erred s) := by
  rw [Bool.eq_iff_iff, decide_eq_true_eq, Erred, ← isSome_finding?, errorTrace?]
  split_ifs with hwanted
  · rw [ErrorRules.trace?_eq, ErrorRules.trace?, Option.isSome_map, and_iff_right hwanted]
  · simp [hwanted]

theorem isWeb_nameOf : (rules.naming.nameOf s.name).isWeb = decide (s.name.category = .web) := by
  show (s.name.category.family == MetricName.webFamily) = _
  cases s.name.category <;> rfl

theorem targetFor_nameOf : rules.naming.targetFor (rules.naming.nameOf s.name) = rules.target? s := by
  rw [NamingRules.targetFor, isWeb_nameOf, target?]
  cases hcategory : s.name.category with
  | other => rfl
  | web =>
    have hfull : (rules.naming.nameOf s.name).full =
        "WebTransaction/" ++ (s.name.group ++ "/" ++ s.name.name) := by
      show s.name.category.family ++ "/" ++ (s.name.group ++ "/" ++ s.name.name) = _
      rw [hcategory]
      rfl
    rw [hfull]
    rfl

theorem errorReported_context (name : MetricName) :
    (rules.context s name).errorReported = decide (rules.Erred s) := rules.isSome_errorTrace? s name

theorem target_context : (rules.context s (rules.naming.nameOf s.name)).target = rules.target? s :=
  rules.targetFor_nameOf s

variable {rules} in
theorem tells_report (halone : Topic.Alone rules.runtimePrefix .errors)
    {x : String} (hx : Topic.ofName x = .errors) :
    Data.Tells ((rules.report s (rules.naming.nameOf s.name)).stats.overall.get? x)
      (if rules.Erred s ∧ x ∈ (rules.naming.nameOf s.name).errorNames then 1 else 0) := by
  have hname := rules.naming.regular_nameOf s.name
  have herror : (rules.context s (rules.naming.nameOf s.name)).errorReported = true ↔
      rules.Erred s := by rw [errorReported_context, decide_eq_true_eq]
  rw [stats_report, Stats.overall_errors_of_alone halone hname hx]
  by_cases h : rules.Erred s ∧ x ∈ (rules.naming.nameOf s.name).errorNames
  · rw [if_pos h, if_pos ⟨herror.2 h.1, h.2⟩]
    exact .timing Nat.one_pos
  · rw [if_neg h, if_neg fun h' => h ⟨herror.1 h'.1, h'.2⟩]
    exact .none

variable {rules} in
theorem judged_report (halone : Topic.Alone rules.runtimePrefix .apdex)
    {x : String} (hx : x ∈ (rules.naming.nameOf s.name).apdexNames) :
    Data.Judged ((rules.report s (rules.naming.nameOf s.name)).stats.overall.get? x)
      (rules.case? s).toList := by
  have hname := rules.naming.regular_nameOf s.name
  have hnames : x ∈ (rules.context s (rules.naming.nameOf s.name)).name.apdexNames := hx
  rw [stats_report, Stats.overall_apdex_of_alone halone hname (Topic.ofName_apdexNames hx),
    if_pos hnames, target_context, errorReported_context, case?]
  cases rules.target? s with
  | none => exact .none
  | some target => exact .apdex (Apdex.judges_once ⟨s.duration, target, _⟩)

variable {rules s} {r : Report}

theorem isSome_errorTrace_iff (hr : rules.examine s = .report r) :
    r.errorTrace.isSome ↔ rules.Erred s := by
  rw [eq_report_of_examine hr]
  show (rules.errorTrace? s (rules.naming.nameOf s.name)).isSome = true ↔ rules.Erred s
  rw [isSome_errorTrace?, decide_eq_true_eq]

theorem ne_apdex_of_other (hr : rules.examine s = .report r) (hother : s.name.category = .other)
    (x : String) (apdex : Apdex) :
    r.stats.overall.get? x ≠ some (.apdex apdex) ∧ r.stats.own.get? x ≠ some (.apdex apdex) := by
  rw [eq_report_of_examine hr, stats_report, NamingRules.nameOf_eq]
  refine Stats.ne_apdex_of_no_target ?_ x apdex
  rw [target_context, target?, hother]

end ReportRules

namespace Station

variable {rules : ReportRules}

/-- Under the name of a count of errors are the errors of the transactions that count there. -/
theorem tells_recent (halone : Topic.Alone rules.runtimePrefix .errors)
    {x : String} (hx : Topic.ofName x = .errors) {p : Snapshot → Prop} [DecidablePred p]
    (hp : ∀ s, x ∈ (rules.naming.nameOf s.name).errorNames ↔ p s) (buffers : RecordBuffers)
    (told : Drops) (ds : List Demand) :
    let start : Station := ⟨⟨.empty, buffers⟩, told⟩
    Data.Tells ((start.serveAll rules ds).1.intake.aggregate.overall? x)
      (((recentOf ds).filter (rules.Reports ·)).countP fun s => rules.Erred s ∧ p s) := by
  intro start
  refine aggregate_recent (fun seen a => Data.Tells (a.overall? x) (seen.countP fun s =>
    rules.Erred s ∧ p s)) .none ?_ [] ?_ ds
  · intro seen a s _ ha
    have hnew := ReportRules.tells_report s halone hx
    rw [Aggregate.overall?_collect, List.countP_append, List.countP_singleton]
    simp only [hp, decide_eq_true_eq] at hnew ⊢
    exact ha.merge hnew
  · exact .none

/-- Under the names that all transactions share are the cases of all that have a target. -/
theorem judged_recent (halone : Topic.Alone rules.runtimePrefix .apdex)
    {x : String} (hx : ∀ n : MetricName, x ∈ n.apdexNames) (buffers : RecordBuffers)
    (told : Drops) (ds : List Demand) :
    let start : Station := ⟨⟨.empty, buffers⟩, told⟩
    Data.Judged ((start.serveAll rules ds).1.intake.aggregate.overall? x)
      (((recentOf ds).filter (rules.Reports ·)).filterMap rules.case?) := by
  intro start
  refine aggregate_recent (fun seen a => Data.Judged (a.overall? x) (seen.filterMap rules.case?))
    .none ?_ [] ?_ ds
  · intro seen a s _ ha
    rw [Aggregate.overall?_collect, filterMap_concat]
    exact ha.merge (ReportRules.judged_report s halone (hx _))
  · exact .none

/-- Every error is one of a web transaction or one of another. -/
theorem countP_erred (rules : ReportRules) (seen : List Snapshot) :
    seen.countP (rules.Erred ·) = seen.countP (fun s => rules.Erred s ∧ s.name.category = .web) +
      seen.countP fun s => rules.Erred s ∧ s.name.category = .other := by
  rw [List.countP_eq_countP_filter_add seen _ fun s => s.name.category = .web, List.countP_filter,
    List.countP_filter]
  refine congrArg₂ (· + ·) (List.countP_congr fun s _ => ?_) (List.countP_congr fun s _ => ?_)
  · simp
  · cases s.name.category <;> simp

/-- The counters of a harvest classify the transactions that it reports, whatever was asked for before.
An error is reported of those that erred; the errors of all, of web and of other transactions are
counted, and the latter two add up to the first. Apdex has every web transaction with a target once, in
the zone that its duration and its error put it in, and nothing else. -/
theorem harvested_counters_classify (rules : ReportRules)
    (hfirst : firstPart rules.runtimePrefix ≠ "Apdex" ∧ firstPart rules.runtimePrefix ≠ "Errors")
    (buffers : RecordBuffers) (told : Drops) (ds : List Demand) :
    let start : Station := ⟨⟨.empty, buffers⟩, told⟩
    let a := (start.serveAll rules ds).1.harvest.2.metrics
    let seen := (recentOf ds).filter (rules.Reports ·)
    (∀ s, rules.Reports s ↔ ∃ r, rules.examine s = .report r) ∧
    (∀ s r, rules.examine s = .report r → (r.errorTrace.isSome ↔ rules.Erred s) ∧
      (s.name.category = .other → ∀ x apdex, r.stats.overall.get? x ≠ some (.apdex apdex) ∧
        r.stats.own.get? x ≠ some (.apdex apdex))) ∧
    Data.Tells (a.overall? "Errors/all") (seen.countP (rules.Erred ·)) ∧
    Data.Tells (a.overall? "Errors/allWeb")
      (seen.countP fun s => rules.Erred s ∧ s.name.category = .web) ∧
    Data.Tells (a.overall? "Errors/allOther")
      (seen.countP fun s => rules.Erred s ∧ s.name.category = .other) ∧
    a.overall.count "Errors/all" =
      a.overall.count "Errors/allWeb" + a.overall.count "Errors/allOther" ∧
    ∀ x ∈ ["ApdexAll", "Apdex"], Data.Judged (a.overall? x) (seen.filterMap rules.case?) := by
  intro start a seen
  have herrors : Topic.Alone rules.runtimePrefix .errors :=
    Topic.alone_of_heading (by decide) (by simpa [Topic.headings] using hfirst.2)
  have hapdex : Topic.Alone rules.runtimePrefix .apdex :=
    Topic.alone_of_heading (by decide) (by simpa [Topic.headings] using hfirst.1)
  have hall : Data.Tells (a.overall? "Errors/all") (seen.countP (rules.Erred ·)) := by
    have hany (s : Snapshot) : "Errors/all" ∈ (rules.naming.nameOf s.name).errorNames ↔ True :=
      iff_true_intro List.mem_cons_self
    have htells := tells_recent herrors (by decide) hany buffers told ds
    simp only [and_true] at htells
    exact htells
  have hweb : Data.Tells (a.overall? "Errors/allWeb") _ :=
    tells_recent herrors (by decide) (p := fun s => s.name.category = .web) (fun s => by
      rw [MetricName.allWeb_mem_errorNames, ReportRules.isWeb_nameOf, decide_eq_true_eq])
      buffers told ds
  have hother : Data.Tells (a.overall? "Errors/allOther") _ :=
    tells_recent herrors (by decide) (p := fun s => s.name.category = .other) (fun s => by
      rw [MetricName.allOther_mem_errorNames, ReportRules.isWeb_nameOf]
      cases s.name.category <;> decide) buffers told ds
  refine ⟨fun s => ReportRules.reports_iff, fun s r hr =>
    ⟨ReportRules.isSome_errorTrace_iff hr, ReportRules.ne_apdex_of_other hr⟩, hall, hweb, hother,
    ?_, fun x hx => ?_⟩
  · have hsum := countP_erred rules seen
    rwa [← hall.count_eq, ← hweb.count_eq, ← hother.count_eq] at hsum
  · refine judged_recent hapdex (fun n => ?_) buffers told ds
    rcases List.mem_pair.1 hx with rfl | rfl <;> simp [MetricName.apdexNames]

/-- A finished transaction with a single span. -/
def finished (category : Category) (name : String) (status : Option Nat) (duration : Duration) :
    Snapshot :=
  { oneSpan with
    name := ⟨category, "Uri", name⟩
    duration := duration
    facts := { Facts.none with status := status } }

/-- Rules with a target that is cut when it is taken four times. -/
def patient : ReportRules :=
  .new { Settings.standard with runtimePrefix := "WebTransaction" }
    ((NamingRules.ofSettings .standard).override "WebTransaction/Uri/export" .greatest)
    (.ofSettings .standard)

/-- Durations on both sides of a limit, a status that is ignored and one that is not, and a transaction
that has no target. -/
def shift : List Demand :=
  [.report (finished .web "users" (some 500) 0), .harvest,
    .report (finished .web "users" (some 404) (.ofMillis 2000)),
    .report (finished .web "users" none ⟨2000000001, by decide⟩),
    .report (finished .web "export" (some 200) .greatest),
    .report (finished .web "users" (some 400) (.ofMillis 1)),
    .report (finished .other "nightly" (some 503) (.ofMillis 1))]

theorem harvested_counters_classify_shift :
    let a := (serveAll patient ⟨⟨.empty, .noRoom⟩, .none⟩ shift).1.harvest.2.metrics
    let target := Duration.ofMillis 500
    (firstPart patient.runtimePrefix ≠ "Apdex" ∧ firstPart patient.runtimePrefix ≠ "Errors") ∧
    Data.Tells (a.overall? "Errors/all") 2 ∧ Data.Tells (a.overall? "Errors/allWeb") 1 ∧
    Data.Tells (a.overall? "Errors/allOther") 1 ∧
    Data.Judged (a.overall? "Apdex") [⟨.ofMillis 2000, target, false⟩,
      ⟨⟨2000000001, by decide⟩, target, false⟩, ⟨.greatest, .greatest, false⟩,
      ⟨.ofMillis 1, target, true⟩] := by
  intro a target
  have hfirst : firstPart patient.runtimePrefix ≠ "Apdex" ∧
      firstPart patient.runtimePrefix ≠ "Errors" := by decide
  obtain ⟨_, _, hall, hweb, hother, _, hcases⟩ :=
    harvested_counters_classify patient hfirst .noRoom .none shift
  exact ⟨hfirst, hall, hweb, hother, hcases "Apdex" (by decide)⟩

end Station

end Telemetry
