import Telemetry.Duration.Seconds
import Telemetry.Decimal.Reading
import Telemetry.Settings.Rules
import Telemetry.Text.Lowercase

/-!
# Settings from the environment

Each setting has a variable of its own. A variable that is not set leaves the standard value; one that
is set must be readable. The result must be valid.
-/
namespace Telemetry

/-- The texts of the variables that are set. -/
abbrev Environment := String → Option String

/-- Reads an object from names to numbers, if that is what the text is. -/
abbrev NumbersReader := String → Option (Dict String Float)

/-- Why a text is not readable. -/
inductive ReadFault
  | numeral (e : NumeralError)
  | literal (e : Decimal.LiteralError)
  | seconds (e : SecondsError)
  | json
  | status (item : String) (e : NumeralError)
  | boolean (text : String)
deriving DecidableEq

def ReadFault.text : ReadFault → String
  | numeral e => e.message
  | literal e => e.message
  | seconds e => e.message
  | json => "<json>"
  | status item e => s!"'{item}': {e.message}"
  | boolean text => s!"expected a boolean, got '{text}'"

inductive SettingsError
  | unreadable (variableName : String) (fault : ReadFault)
  | invalid (v : Violation)
deriving DecidableEq

def SettingsError.message : SettingsError → String
  | unreadable variableName fault => s!"Failed to parse {variableName}: {fault.text}"
  | invalid v => s!"Invalid configuration: {v.text}"

namespace Settings

def greatestStatus : Nat := 65535

def readWord (text : String) : Except ReadFault Nat :=
  (Numeral.read Numeral.greatestWord (Text.trim text.toList)).mapError .numeral

def readTarget (text : String) : Except ReadFault Duration := do
  let x ← (Decimal.readFloat (Text.trim text.toList)).mapError .literal
  (Duration.ofFloatSeconds x).mapError .seconds

def readInterval (text : String) : Except ReadFault Duration :=
  (readWord text).map .ofSeconds

def readOverride (e : String × Float) : Except ReadFault (String × Duration) := do
  let d ← (Duration.ofFloatSeconds e.2).mapError .seconds
  return (e.1, d)

def readOverrides (numbers? : NumbersReader) (text : String) :
    Except ReadFault (Dict String Duration) :=
  match numbers? text with
  | none => .error .json
  | some numbers => (numbers.entries.mapM readOverride).map .ofList

def readNames (text : String) : Except ReadFault (List String) :=
  .ok ((Text.items text.toList).map String.ofList)

def readStatus (item : List Char) : Except ReadFault Nat :=
  (Numeral.read greatestStatus item).mapError (.status (String.ofList item))

def readStatuses (text : String) : Except ReadFault (List Nat) :=
  (Text.items text.toList).mapM readStatus

/-- The text without blanks around it, in lower case. -/
def plainWord (text : String) : String := String.ofList (Text.lowercase (Text.trim text.toList))

def readBool (text : String) : Except ReadFault Bool :=
  let word := plainWord text
  if word = "true" ∨ word = "1" ∨ word = "yes" then .ok true
  else if word = "false" ∨ word = "0" ∨ word = "no" then .ok false
  else .error (.boolean word)

/-- What a variable says, or the standard value if it is not set. -/
def look {α : Type} (env : Environment) (variableName : String)
    (read : String → Except ReadFault α) (standard : α) : Except SettingsError α :=
  match env variableName with
  | none => .ok standard
  | some text => (read text).mapError (.unreadable variableName)

/-- The settings that the environment spells, valid or not. The order of the lines decides which of
several unreadable variables is told. -/
def spelled (numbers? : NumbersReader) (env : Environment) : Except SettingsError Settings := do
  let runtimePrefix ← look env "APM_RUNTIME_PREFIX" .ok standard.runtimePrefix
  let apdexTarget ← look env "APM_APDEX_T" readTarget standard.apdexTarget
  let apdexOverrides ←
    look env "APM_APDEX_T_OVERRIDES" (readOverrides numbers?) standard.apdexOverrides
  let ignoredNames ← look env "APM_IGNORED_TRANSACTION_NAMES" readNames standard.ignoredNames
  let ignoredStatuses ←
    look env "APM_ERROR_IGNORE_STATUS_CODES" readStatuses standard.ignoredStatuses
  let traces ← look env "APM_TRANSACTION_TRACE_CAPACITY" readWord standard.buffers.traces
  let events ← look env "APM_TRANSACTION_EVENT_CAPACITY" readWord standard.buffers.events
  let errorTraces ← look env "APM_ERROR_TRACE_CAPACITY" readWord standard.buffers.errorTraces
  let errorEvents ← look env "APM_ERROR_EVENT_CAPACITY" readWord standard.buffers.errorEvents
  let sqlTraces ← look env "APM_SQL_TRACE_CAPACITY" readWord standard.buffers.sqlTraces
  let partitions ← look env "APM_BUFFER_PARTITIONS" readWord standard.buffers.partitions
  let harvestInterval ←
    look env "APM_HARVEST_INTERVAL_SECS" readInterval standard.harvestInterval
  let logLevel ← look env "APM_LOG_LEVEL" (.ok ∘ plainWord) standard.logLevel
  let tracerEnabled ← look env "APM_TRANSACTION_TRACER_ENABLED" readBool standard.tracerEnabled
  let eventsEnabled ← look env "APM_TRANSACTION_EVENTS_ENABLED" readBool standard.eventsEnabled
  let transactionEventsEnabled ←
    look env "APM_TRANSACTION_EVENTS_TRANSACTIONS_ENABLED" readBool
      standard.transactionEventsEnabled
  let errorsEnabled ← look env "APM_ERROR_COLLECTOR_ENABLED" readBool standard.errorsEnabled
  let errorEventsEnabled ←
    look env "APM_ERROR_COLLECTOR_CAPTURE_EVENTS" readBool standard.errorEventsEnabled
  let sqlTracesEnabled ← look env "APM_SQL_TRACE_ENABLED" readBool standard.sqlTracesEnabled
  let stripMessages ← look env "APM_STRIP_EXCEPTION_MESSAGES" readBool standard.stripMessages
  let stackFrames ← look env "APM_STACK_TRACE_MAX_FRAMES" readWord standard.stackFrames
  return {
    runtimePrefix, apdexTarget, apdexOverrides, ignoredNames, tracerEnabled, eventsEnabled,
    transactionEventsEnabled, errorsEnabled, errorEventsEnabled, sqlTracesEnabled,
    ignoredStatuses, stripMessages, stackFrames, harvestInterval, logLevel
    buffers := { traces, events, errorTraces, errorEvents, sqlTraces, partitions } }

def validate (s : Settings) : Except SettingsError Settings :=
  match s.violation? with
  | some v => .error (.invalid v)
  | none => .ok s

def ofEnvironment (numbers? : NumbersReader) (env : Environment) : Except SettingsError Settings := do
  validate (← spelled numbers? env)

end Settings

end Telemetry
