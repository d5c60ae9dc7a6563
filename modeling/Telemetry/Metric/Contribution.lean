import Telemetry.Forest.Time
import Telemetry.Metric.Table
import Telemetry.MetricName

/-!
# What a transaction contributes to metrics

Every node of the forest contributes a timing under the name of its span. The transaction as a whole
contributes its duration, the total of all exclusive times and, where the facts are there, its queue
time, Apdex, error counts and caller. Some of it also counts within the scope of the transaction.
-/
namespace Telemetry.Metric

structure Contribution where
  name : String
  data : Data
  /-- Whether it also goes into the table of the transaction's own scope. -/
  inScope : Bool

/-- The facts of a transaction that its metrics depend on. -/
structure Context where
  name : MetricName
  duration : Duration
  queueTime : Option Duration
  target : Option Duration
  errorReported : Bool
  referrer : Option String

namespace Contribution

def common (name : String) (d : Data) : Contribution := ⟨name, d, false⟩

def within (name : String) (d : Data) : Contribution := ⟨name, d, true⟩

def nodeName (runtimePrefix spanName : String) : String := runtimePrefix ++ "/" ++ spanName

def ofNode (runtimePrefix : String) (t : Tree Span) : Contribution :=
  within (nodeName runtimePrefix t.label.name) (.timing (.once t.inclusive t.exclusive))

def ofNodes (runtimePrefix : String) (f : Forest) : List Contribution :=
  f.nodes.map (ofNode runtimePrefix)

def ofDuration (c : Context) : List Contribution :=
  let d := Data.timing (.once c.duration c.duration)
  (if c.name.isWeb then [common "WebTransaction" d, common "HttpDispatcher" d]
    else [common "OtherTransaction/all" d]) ++ [within c.name.full d]

def ofTotalTime (c : Context) (f : Forest) : List Contribution :=
  let d := Data.timing (.once f.totalExclusive f.totalExclusive)
  let all := if c.name.isWeb then "WebTransactionTotalTime" else "OtherTransactionTotalTime"
  [common all d, common (all ++ "/" ++ c.name.unprefixed) d]

def ofQueueTime (c : Context) : List Contribution :=
  (c.queueTime.map fun q => common "WebFrontend/QueueTime" (.timing (.once q q))).toList

def zone? (c : Context) : Option Zone :=
  c.target.map fun target => .classify c.duration target c.errorReported

def ofApdex (c : Context) : List Contribution :=
  match c.target with
  | some target =>
    let d := Data.apdex (.once (.classify c.duration target c.errorReported) target)
    [common "ApdexAll" d, common "Apdex" d, common ("Apdex/" ++ c.name.unprefixed) d]
  | none => []

def ofErrors (c : Context) : List Contribution :=
  if c.errorReported then
    let d := Data.timing (.calls 1)
    [common "Errors/all" d, common (if c.name.isWeb then "Errors/allWeb" else "Errors/allOther") d,
      common ("Errors/" ++ c.name.full) d]
  else []

def ofReferrer (c : Context) : List Contribution :=
  (c.referrer.map fun r =>
    common ("ClientApplication/" ++ r ++ "/all") (.timing (.once c.duration c.duration))).toList

/-- All contributions in the order in which they are made. -/
def all (runtimePrefix : String) (f : Forest) (c : Context) : List Contribution :=
  ofNodes runtimePrefix f ++ ofDuration c ++ ofTotalTime c f ++ ofQueueTime c ++ ofApdex c ++
    ofErrors c ++ ofReferrer c

def entry (c : Contribution) : String × Data := (c.name, c.data)

end Contribution

/-- The metrics of one transaction. -/
structure Stats where
  scope : String
  /-- What counts within the scope of the transaction. -/
  own : Table
  /-- What counts among all transactions. -/
  overall : Table

namespace Stats

def ownEntries (cs : List Contribution) : List (String × Data) :=
  (cs.filter (·.inScope)).map Contribution.entry

def ofContributions (scope : String) (cs : List Contribution) : Stats where
  scope := scope
  own := .ofList (ownEntries cs)
  overall := .ofList (cs.map Contribution.entry)

def ofForest (runtimePrefix : String) (f : Forest) (c : Context) : Stats :=
  ofContributions c.name.full (Contribution.all runtimePrefix f c)

/-- What the tables drop while the contributions come in. -/
def clashesOf (runtimePrefix : String) (f : Forest) (c : Context) : List Clash :=
  let cs := Contribution.all runtimePrefix f c
  Table.empty.clashes (ownEntries cs) ++ Table.empty.clashes (cs.map Contribution.entry)

end Stats

end Telemetry.Metric
