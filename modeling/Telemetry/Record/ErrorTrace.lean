import Telemetry.MetricName
import Telemetry.Record.StatusReason

/-!
# Error traces

A transaction reports at most one error: the first that was noticed, or else its response status, if
that is an error and not ignored.
-/
namespace Telemetry

structure ErrorTrace where
  time : Instant
  /-- The full metric name of the transaction. -/
  path : String
  message : String
  errorClass : String
  stack : Option (List String)
  uri : Option String
  guid : String
  attributes : AttributeSet

structure ErrorRules where
  ignoredStatuses : List Nat
  stripMessages : Bool
  stackFrames : Nat

namespace ErrorRules

def strippedMessage : String :=
  "Message removed by the agent based on your currently enabled security settings."

def new (ignoredStatuses : List Nat) : ErrorRules :=
  ⟨ignoredStatuses, false, Settings.standardStackFrames⟩

def ofSettings (s : Settings) : ErrorRules := ⟨s.ignoredStatuses, s.stripMessages, s.stackFrames⟩

/-- The error that is reported. -/
structure Finding where
  time : Instant
  errorClass : String
  message : String
  stack : Option (List String)

/-- Of the stack only the first frames are kept. -/
def ofNoticed (r : ErrorRules) (e : NoticedError) : Finding where
  time := e.time
  errorClass := e.errorClass
  message := if r.stripMessages then strippedMessage else e.message
  stack := e.stack.map (·.take r.stackFrames)

def isErrorStatus (r : ErrorRules) (code : Nat) : Bool :=
  decide (400 ≤ code) && !r.ignoredStatuses.contains code

/-- A status is dated to the end of the transaction. -/
def ofStatus (s : Snapshot) (code : Nat) : Finding where
  time := (s.startTime.after? s.duration).getD s.startTime
  errorClass := toString code
  message := statusReason code
  stack := none

def finding? (r : ErrorRules) (s : Snapshot) : Option Finding :=
  match s.facts.errors with
  | e :: _ => some (r.ofNoticed e)
  | [] => (s.facts.status.filter r.isErrorStatus).map (ofStatus s)

def trace? (r : ErrorRules) (s : Snapshot) (name : MetricName) : Option ErrorTrace :=
  (r.finding? s).map fun e =>
    { time := e.time
      path := name.full
      message := e.message
      errorClass := e.errorClass
      stack := e.stack
      uri := s.facts.uri
      guid := s.guid
      attributes := s.facts.attributes.routed (.only .errorTrace) }

end ErrorRules

end Telemetry
