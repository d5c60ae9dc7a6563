import Telemetry.Log.Level
import Telemetry.Settings.Basic
import Telemetry.Text.Blank

/-!
# Valid settings

Settings are valid if nothing in them is blank, zero or unknown that must not be. The rules are
checked in a fixed order, and the first one that is broken is told.
-/
namespace Telemetry

inductive Violation
  | blankPrefix
  | zeroTarget
  | zeroOverride (name : String)
  | noPartitions
  | zeroInterval
  | unknownLevel (name : String)
deriving DecidableEq

def Violation.text : Violation → String
  | blankPrefix => "runtime prefix cannot be empty"
  | zeroTarget => "apdex_t must be greater than 0"
  | zeroOverride name => s!"apdex_t override for '{name}' must be greater than 0"
  | noPartitions => "buffer partition count must be greater than 0"
  | zeroInterval => "harvest interval must be greater than 0"
  | unknownLevel name =>
    s!"Invalid log level '{name}'. Must be one of: trace, debug, info, warn, error"

namespace Settings

/-- The first override with a target of zero. -/
def zeroOverride? (s : Settings) : Option String :=
  (s.apdexOverrides.entries.find? (·.2.isZero)).map Prod.fst

def violation? (s : Settings) : Option Violation :=
  if (Text.trim s.runtimePrefix.toList).isEmpty then some .blankPrefix
  else if s.apdexTarget.isZero then some .zeroTarget
  else match s.zeroOverride? with
    | some name => some (.zeroOverride name)
    | none =>
      if s.buffers.partitions = 0 then some .noPartitions
      else if s.harvestInterval.isZero then some .zeroInterval
      else if (Log.Level.ofName? s.logLevel).isNone then some (.unknownLevel s.logLevel)
      else none

end Settings

end Telemetry
