import Telemetry.Log.Notice
import Telemetry.Metric.Contribution

/-!
# Metrics of many transactions

An aggregate merges the metrics of transactions until they are harvested: one table for each scope,
one table for all, and the number of transactions.
-/
namespace Telemetry.Metric

structure Aggregate where
  scopes : Dict String Table
  overall : Table
  transactions : Nat

namespace Aggregate

def empty : Aggregate := ⟨.empty, .empty, 0⟩

def isEmpty (a : Aggregate) : Bool :=
  a.transactions == 0 && a.overall.isEmpty && a.scopes.isEmpty

/-- The table of a scope, empty before anything was collected there. -/
def scopeTable (a : Aggregate) (scope : String) : Table := (a.scopes.get? scope).getD .empty

/-- A scope gets a table even if nothing is in it. -/
def collect (a : Aggregate) (s : Stats) : Aggregate where
  scopes := a.scopes.insert s.scope ((a.scopeTable s.scope).addTable s.own)
  overall := a.overall.addTable s.overall
  transactions := a.transactions + 1

def collectClashes (a : Aggregate) (s : Stats) : List Clash :=
  (a.scopeTable s.scope).clashes s.own.entries ++ a.overall.clashes s.overall.entries

def inScope? (a : Aggregate) (scope name : String) : Option Data :=
  (a.scopes.get? scope).bind (·.get? name)

def overall? (a : Aggregate) (name : String) : Option Data := a.overall.get? name

/-- Taking everything out of an aggregate leaves an empty one; this is what is told about it. -/
def harvestNotice (a : Aggregate) : Notice := .metricsHarvested a.transactions a.overall.size

end Aggregate

end Telemetry.Metric
