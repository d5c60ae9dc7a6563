import Telemetry.Settings.Basic
import Telemetry.Transaction.Basic

/-!
# Metric names of transactions

A transaction reports under a family, web or other, followed by its group and its own name. Naming
rules say which full names are not reported at all and which Apdex target holds for a name.
-/
namespace Telemetry

structure MetricName where
  family : String
  unprefixed : String
  /-- Set if a rule forbids to report the transaction. -/
  ignored : Bool
deriving DecidableEq

namespace MetricName

def webFamily : String := "WebTransaction"

def otherFamily : String := "OtherTransaction"

def full (n : MetricName) : String := n.family ++ "/" ++ n.unprefixed

def isWeb (n : MetricName) : Bool := n.family == webFamily

end MetricName

def Category.family : Category → String
  | web => MetricName.webFamily
  | other => MetricName.otherFamily

structure NamingRules where
  target : Option Duration
  overrides : Dict String Duration
  ignored : List String

namespace NamingRules

def new (target : Option Duration) : NamingRules := ⟨target, .empty, []⟩

def ofSettings (s : Settings) : NamingRules :=
  ⟨some s.apdexTarget, s.apdexOverrides, s.ignoredNames⟩

def override (r : NamingRules) (name : String) (target : Duration) : NamingRules :=
  { r with overrides := r.overrides.insert name target }

def ignore (r : NamingRules) (name : String) : NamingRules :=
  { r with ignored := r.ignored ++ [name] }

def nameOf (r : NamingRules) (n : TransactionName) : MetricName :=
  let name : MetricName := ⟨n.category.family, n.group ++ "/" ++ n.name, false⟩
  { name with ignored := r.ignored.contains name.full }

/-- Only web transactions have a target; an override goes before the common one. -/
def targetFor (r : NamingRules) (n : MetricName) : Option Duration :=
  if n.isWeb then (r.overrides.get? n.full).or r.target else none

end NamingRules

end Telemetry
