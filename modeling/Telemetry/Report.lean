import Telemetry.Record.Event
import Telemetry.Record.SqlTrace
import Telemetry.Record.Trace

/-!
# What one transaction yields

The rules of reporting turn a finished transaction into a report: its metrics and its records, as
far as they are wanted. Nothing is reported of a transaction that is ignored, by its own mark or by its
name, and a transaction without spans is at fault.
-/
namespace Telemetry

/-- Which records are wanted. -/
structure Wanted where
  traces : Bool
  events : Bool
  errors : Bool
  errorEvents : Bool
  sqlTraces : Bool

def Wanted.ofSettings (s : Settings) : Wanted where
  traces := s.tracerEnabled
  events := s.eventsEnabled && s.transactionEventsEnabled
  errors := s.errorsEnabled
  errorEvents := s.errorEventsEnabled
  sqlTraces := s.sqlTracesEnabled

structure Report where
  name : MetricName
  inconsistencies : Nat
  moved : Nat
  stats : Metric.Stats
  /-- Contributions that the metrics of the transaction itself could not take. -/
  clashes : List Metric.Clash
  trace : Option TransactionTrace
  event : Option Event
  errorEvent : Option Event
  errorTrace : Option ErrorTrace
  sqlTraces : List SqlTrace

inductive Examination
  /-- The transaction was marked to be ignored. -/
  | flagged
  | empty
  | unwanted (name : MetricName)
  | report (r : Report)

/-- Tells how a transaction is called in metrics, and the target of a name. -/
class NameService (ν : Type) where
  nameOf : ν → TransactionName → MetricName
  targetFor : ν → MetricName → Option Duration

/-- Tells whether a transaction has an error to report, and makes the trace of it. -/
class ErrorMaker (μ : Type) where
  trace? : μ → Snapshot → MetricName → Option ErrorTrace

instance : NameService NamingRules := ⟨NamingRules.nameOf, NamingRules.targetFor⟩

instance : ErrorMaker ErrorRules := ⟨ErrorRules.trace?⟩

@[simp]
theorem NamingRules.nameOf_eq (r : NamingRules) (n : TransactionName) :
    NameService.nameOf r n = r.nameOf n := rfl

@[simp]
theorem ErrorRules.trace?_eq (r : ErrorRules) (s : Snapshot) (name : MetricName) :
    ErrorMaker.trace? r s name = r.trace? s name := rfl

/-- Names and errors are told by the rules of the settings unless something else tells them. -/
structure ReportRules (ν : Type := NamingRules) (μ : Type := ErrorRules) where
  wanted : Wanted
  runtimePrefix : String
  naming : ν
  errors : μ

namespace ReportRules

def new (s : Settings) (naming : NamingRules) (errors : ErrorRules) : ReportRules :=
  ⟨.ofSettings s, s.runtimePrefix, naming, errors⟩

def ofSettings (s : Settings) : ReportRules := new s (.ofSettings s) (.ofSettings s)

variable {ν μ : Type} [NameService ν] [ErrorMaker μ]

def errorTrace? (r : ReportRules ν μ) (s : Snapshot) (name : MetricName) : Option ErrorTrace :=
  if r.wanted.errors then ErrorMaker.trace? r.errors s name else none

def context (r : ReportRules ν μ) (s : Snapshot) (name : MetricName) : Metric.Context where
  name := name
  duration := s.duration
  queueTime := s.facts.queueTime
  target := NameService.targetFor r.naming name
  errorReported := (r.errorTrace? s name).isSome
  referrer := s.facts.referrer

def event? (r : ReportRules ν μ) (s : Snapshot) (f : Forest) (c : Metric.Context) : Option Event :=
  if r.wanted.events then
    some (.ofTransaction s c.name f.totalExclusive (Metric.Contribution.zone? c) c.errorReported)
  else none

def report (r : ReportRules ν μ) (s : Snapshot) (name : MetricName) : Report :=
  let f := Forest.ofSpans s.spans
  let c := r.context s name
  let errorTrace := r.errorTrace? s name
  { name := name
    inconsistencies := f.inconsistencies
    moved := s.moved
    stats := .ofForest r.runtimePrefix f c
    clashes := Metric.Stats.clashesOf r.runtimePrefix f c
    trace := if r.wanted.traces then TransactionTrace.ofForest? s f name else none
    event := r.event? s f c
    errorEvent := if r.wanted.errorEvents then errorTrace.map (Event.ofError s) else none
    errorTrace := errorTrace
    sqlTraces :=
      if r.wanted.sqlTraces then SqlTrace.collect r.runtimePrefix name s.facts.uri f
      else [] }

/-- The mark to ignore is looked at first, then whether there are spans, then the name. -/
def examine (r : ReportRules ν μ) (s : Snapshot) : Examination :=
  if s.ignored then .flagged
  else if s.spans.isEmpty then .empty
  else
    let name := NameService.nameOf r.naming s.name
    if name.ignored then .unwanted name else .report (r.report s name)

end ReportRules

end Telemetry
