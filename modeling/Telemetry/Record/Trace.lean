import Telemetry.Forest.Time
import Telemetry.MetricName

/-!
# Transaction traces

A trace shows the whole forest of a transaction as one tree of segments. Its root stands for the
transaction itself; the roots of the forest are the children of the root.
-/
namespace Telemetry

structure Segment where
  start : Duration
  stop : Duration
  name : String
  parameters : Dict String Attribute.Value

def Segment.ofSpan (s : Span) : Segment :=
  ⟨s.start, s.start + s.inclusive, s.name, s.traceParameters⟩

structure TransactionTrace where
  startTime : Instant
  duration : Duration
  metricName : String
  uri : Option String
  guid : String
  root : Tree Segment
  attributes : AttributeSet

namespace TransactionTrace

def rootSegment (duration : Duration) : Segment := ⟨0, duration, "ROOT", .empty⟩

/-- There is no trace of a transaction without spans. -/
def ofForest? (s : Snapshot) (f : Forest) (name : MetricName) : Option TransactionTrace :=
  if f.isEmpty then none
  else some
    { startTime := s.startTime
      duration := s.duration
      metricName := name.full
      uri := s.facts.uri
      guid := s.guid
      root := .node (rootSegment s.duration) (f.roots.map (Tree.map Segment.ofSpan))
      attributes := s.facts.attributes.routed (.only .transactionTrace) }

/-- The number of segments, the root included. -/
def segmentCount (t : TransactionTrace) : Nat := t.root.size

end TransactionTrace

end Telemetry
