import Telemetry.Attribute
import Telemetry.Duration

/-!
# Spans

A span is one measured piece of work in a transaction. It has no duration until it ends. Its parent
link and its list of children are kept apart: a child that moved to another parent stays in the list
of the earlier one.
-/
namespace Telemetry

inductive SpanKind
  | method
  | datastore
  | external
  | custom
deriving DecidableEq

structure SpanAttribute where
  value : Attribute.Value
  destinations : Destinations

structure Span where
  id : Nat
  name : String
  kind : SpanKind
  start : Duration
  duration : Option Duration
  parent : Option Nat
  children : List Nat
  attributes : Dict String SpanAttribute

namespace Span

/-- A span that has not ended and has no links. -/
def unfinished (id : Nat) (name : String) (kind : SpanKind) (start : Duration) : Span where
  id := id
  name := name
  kind := kind
  start := start
  duration := none
  parent := none
  children := []
  attributes := .empty

def ended (s : Span) : Bool := s.duration.isSome

/-- The time between start and end, zero for a span that never ended. -/
def inclusive (s : Span) : Duration := s.duration.getD 0

def tag (s : Span) (key : String) (a : SpanAttribute) : Span :=
  { s with attributes := s.attributes.insert key a }

/-- Ends the span at a time counted like its start. -/
def finish (s : Span) (time : Duration) : Span := { s with duration := some (time - s.start) }

def linkTo (s : Span) (parent : Nat) : Span := { s with parent := some parent }

def listChild (s : Span) (child : Nat) : Span := { s with children := s.children ++ [child] }

/-- The attributes that a transaction trace shows for the span. -/
def traceParameters (s : Span) : Dict String Attribute.Value :=
  .ofList ((s.attributes.entries.filter (·.2.destinations.contains .transactionTrace)).map
    fun e => (e.1, e.2.value))

/-- The key of the statement that a datastore span ran. -/
def statementKey : String := "sql"

/-- The statement, whatever records it may be copied into. -/
def statement? (s : Span) : Option String :=
  (s.attributes.get? statementKey).bind (·.value.asText?)

/-- Links the span at position `child` under the one at position `parent`. -/
def adopt (spans : List Span) (parent child : Nat) : List Span :=
  match spans[parent]?, spans[child]? with
  | some p, some c => (spans.modify child (·.linkTo p.id)).modify parent (·.listChild c.id)
  | _, _ => spans

end Span

end Telemetry
