import Telemetry.Fingerprint
import Telemetry.Forest.Time
import Telemetry.Metric.Contribution

/-!
# SQL traces

The datastore spans of a transaction that carry a statement are summed up by statement, in the order
in which the statements first appear in the forest.
-/
namespace Telemetry

structure SqlTrace where
  sqlId : Nat
  transactionName : String
  uri : Option String
  metricName : String
  statement : String
  calls : Nat
  total : Duration
  least : Duration
  greatest : Duration
deriving DecidableEq

namespace SqlTrace

/-- One more call of the statement. -/
def record (t : SqlTrace) (d : Duration) : SqlTrace :=
  { t with
    calls := t.calls + 1
    total := t.total + d
    least := min t.least d
    greatest := max t.greatest d }

/-- The statement of a datastore span. -/
def statement? (t : Tree Span) : Option String :=
  if t.label.kind = .datastore then t.label.statement? else none

def first (runtimePrefix : String) (name : MetricName) (uri : Option String) (statement : String)
    (t : Tree Span) : SqlTrace where
  sqlId := fingerprint statement
  transactionName := name.full
  uri := uri
  metricName := Metric.Contribution.nodeName runtimePrefix t.label.name
  statement := statement
  calls := 1
  total := t.inclusive
  least := t.inclusive
  greatest := t.inclusive

/-- Counts a call in the trace of its statement, or starts one with it. -/
def count (start : SqlTrace) : List SqlTrace → List SqlTrace
  | [] => [start]
  | t :: ts =>
    if t.statement = start.statement then t.record start.total :: ts else t :: count start ts

def collect (runtimePrefix : String) (name : MetricName) (uri : Option String) (f : Forest) :
    List SqlTrace :=
  f.nodes.foldl (fun traces t =>
    match statement? t with
    | some statement => count (first runtimePrefix name uri statement t) traces
    | none => traces) []

end SqlTrace

end Telemetry
