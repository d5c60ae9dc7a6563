import Telemetry.Metric.Apdex
import Telemetry.Record.ErrorTrace

/-!
# Events

An event is a flat set of attributes that describes a transaction or its error. Attributes that are
routed to it come first; what is known about the transaction itself then replaces whatever stands
under the same keys.
-/
namespace Telemetry

abbrev Event := AttributeSet

namespace Event

/-- The routed attributes with intrinsic facts on top. -/
def withFacts (routed : AttributeSet) (facts : List (String × Attribute.Value)) : Event :=
  { routed with intrinsic := routed.intrinsic.insertAll facts }

def queueFact (s : Snapshot) : List (String × Attribute.Value) :=
  (s.facts.queueTime.map fun q => ("queueDuration", .float q.inSeconds)).toList

def transactionFacts (s : Snapshot) (name : MetricName) (totalTime : Duration)
    (zone : Option Metric.Zone) (errorReported : Bool) : List (String × Attribute.Value) :=
  [("type", .text "Transaction"), ("name", .text name.full),
    ("timestamp", .float s.startTime.unixSeconds), ("duration", .float s.duration.inSeconds),
    ("totalTime", .float totalTime.inSeconds), ("guid", .text s.guid),
    ("error", .bool errorReported)] ++ queueFact s ++
    (zone.map fun z => ("apdexPerfZone", .text z.letter)).toList

def errorFacts (s : Snapshot) (e : ErrorTrace) : List (String × Attribute.Value) :=
  [("type", .text "TransactionError"), ("error.class", .text e.errorClass),
    ("error.message", .text e.message), ("timestamp", .float e.time.unixSeconds),
    ("transactionName", .text e.path), ("duration", .float s.duration.inSeconds),
    ("transactionGuid", .text s.guid)] ++ queueFact s

def ofTransaction (s : Snapshot) (name : MetricName) (totalTime : Duration)
    (zone : Option Metric.Zone) (errorReported : Bool) : Event :=
  withFacts (s.facts.attributes.routed (.only .transactionEvent))
    (transactionFacts s name totalTime zone errorReported)

def ofError (s : Snapshot) (e : ErrorTrace) : Event :=
  withFacts (s.facts.attributes.routed (.only .errorEvent)) (errorFacts s e)

end Event

end Telemetry
