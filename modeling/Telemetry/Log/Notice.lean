import Telemetry.Log.Line
import Telemetry.Metric.Text
import Telemetry.Record.Kind

/-!
# What is worth a log line

Every event that the library tells about, with its level and its wording.
-/
namespace Telemetry

inductive Notice
  /-- A child left its earlier parent for another one. -/
  | childMoved (child parent earlier : Nat)
  /-- A fact was given a second time; the new value is shown. -/
  | secondWrite (fact value : String)
  | lateWrite (fact : String)
  | kindClash (clash : Metric.Clash)
  | flaggedIgnored
  | nameIgnored (name : String)
  | inconsistentLinks (name : String) (count moved : Nat)
  | recordDropped (kind : RecordKind)
  | migrated (moved left : Nat)
  /-- An item found no place on its way to another buffer. -/
  | itemLost
  | drops (d : Drops)
  | metricsHarvested (transactions names : Nat)
  | sending (records : Nat)
  | sendingFailed
  | retrying (records : Nat)
  | retryFailed (records : Nat)
  | stopping
  | lostAtStop (records : Nat)

namespace Notice

def level : Notice → Log.Level
  | kindClash _ | itemLost => .warn
  | sendingFailed | retryFailed _ | lostAtStop _ => .error
  | _ => .debug

def dropsText (d : Drops) : String :=
  Metric.recordText "DroppedCounts"
    [("traces", toString d.traces), ("events", toString d.events),
      ("error_traces", toString d.errorTraces), ("error_events", toString d.errorEvents),
      ("sql_traces", toString d.sqlTraces)]

def message : Notice → String
  | childMoved child parent earlier =>
    s!"Span {child} re-registered under span {parent}, previously under span {earlier}"
  | secondWrite fact value => s!"Ignoring second write to transaction {fact}: {value}"
  | lateWrite fact => s!"Rejecting write to transaction {fact} after completion"
  | kindClash c =>
    s!"Metric {c.name} recorded as both timing and apdex, keeping " ++ c.kept.text ++
      ", dropping " ++ c.dropped.text
  | flaggedIgnored => "Transaction was ignored, skipping"
  | nameIgnored name => s!"Transaction {name} matches an ignore rule, skipping"
  | inconsistentLinks name count moved =>
    s!"Transaction {name} had {count} inconsistent span registrations " ++
      s!"({moved} re-registered children)"
  | recordDropped kind => s!"Dropped {kind.text}, buffer is full"
  | migrated moved left => s!"Migrated {moved} items into resized buffer, {left} left in source"
  | itemLost => "Unable to return item to source buffer during migration, item dropped"
  | drops d => s!"Buffers dropped {d.total} records since last harvest: " ++ dropsText d
  | metricsHarvested transactions names =>
    s!"Harvested metrics for {transactions} transactions, {names} unscoped names"
  | sending records => s!"Sending harvest of {records} records"
  | sendingFailed => "Failed to send harvest, keeping it for the next cycle"
  | retrying records => s!"Retrying previously failed harvest of {records} records"
  | retryFailed records => s!"Retry of failed harvest also failed, dropping {records} records"
  | stopping => "Harvester cancelled, running final harvest"
  | lostAtStop records => s!"Dropping {records} records that could not be sent before shutdown"

def line (n : Notice) : Log.Line := ⟨n.level, n.message, []⟩

end Notice

end Telemetry
