/-!
# Levels of log lines
-/
namespace Telemetry.Log

inductive Level
  | trace
  | debug
  | info
  | warn
  | error
deriving DecidableEq

namespace Level

/-- Levels from the least to the most severe. -/
def all : List Level := [trace, debug, info, warn, error]

def severity : Level → Nat
  | trace => 0
  | debug => 1
  | info => 2
  | warn => 3
  | error => 4

def name : Level → String
  | trace => "trace"
  | debug => "debug"
  | info => "info"
  | warn => "warn"
  | error => "error"

def capitals : Level → String
  | trace => "TRACE"
  | debug => "DEBUG"
  | info => "INFO"
  | warn => "WARN"
  | error => "ERROR"

def ofName? (s : String) : Option Level := all.find? (·.name == s)

theorem ofName?_name (l : Level) : ofName? l.name = some l := by cases l <;> decide

end Level

end Telemetry.Log
