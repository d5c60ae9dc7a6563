import Telemetry.Log.Level

/-!
# The log filter

A filter is the name of the least severe level that is written, or `off`. The logger can be set up
once; a filter of the surroundings goes before the one that is asked for, if it can be read.
-/
namespace Telemetry.Log

/-- Lets lines of some severity on through; `none` lets nothing through. -/
structure Filter where
  threshold : Option Level
deriving DecidableEq

namespace Filter

/-- The letters of a filter may be of either case. -/
def read? (s : String) : Option Filter :=
  let name := String.ofList (s.toList.map Char.toLower)
  if name = "off" then some ⟨none⟩ else (Level.ofName? name).map fun l => ⟨some l⟩

def admits (f : Filter) (l : Level) : Bool :=
  match f.threshold with
  | some least => decide (least.severity ≤ l.severity)
  | none => false

end Filter

inductive SetupError
  | malformedFilter
  | alreadySetUp
deriving DecidableEq

def SetupError.message : SetupError → String
  | .malformedFilter => "Failed to initialize logging: <filter>"
  | .alreadySetUp =>
    "Failed to initialize logging: a global default trace dispatcher has already been set"

/-- The filter in force, if the logger has been set up. -/
structure Logger where
  filter : Option Filter

def Logger.fresh : Logger := ⟨none⟩

/-- Reads the filter first, so a malformed one is told before a logger that is there already. -/
def Logger.setUp (g : Logger) (surrounding : Option String) (level : String) :
    Except SetupError Logger :=
  match (surrounding.bind Filter.read?).or (Filter.read? level) with
  | none => .error .malformedFilter
  | some f => if g.filter.isSome then .error .alreadySetUp else .ok ⟨some f⟩

def Logger.admits (g : Logger) (l : Level) : Bool := g.filter.any (·.admits l)

end Telemetry.Log
