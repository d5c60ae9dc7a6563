import Telemetry.Decimal.Layout
import Telemetry.Duration.Text
import Telemetry.Metric.Table

/-!
# Statistics in words

The form in which a log line shows a statistic.
-/
namespace Telemetry.Metric

/-- `Name { field: value, … }`. -/
def recordText (name : String) (fields : List (String × String)) : String :=
  name ++ " \x7b " ++ String.intercalate ", " (fields.map fun f => f.1 ++ ": " ++ f.2) ++ " \x7d"

def Timing.text (t : Timing) : String :=
  recordText "MetricStatistic"
    [("call_count", toString t.count), ("total", t.total.text), ("exclusive", t.exclusive.text),
      ("min", t.least.text), ("max", t.greatest.text),
      ("sum_of_squares", Decimal.Layout.diagnostic.floatText t.sumOfSquares)]

def Apdex.text (a : Apdex) : String :=
  recordText "ApdexStatistic"
    [("satisfying", toString a.satisfying), ("tolerating", toString a.tolerating),
      ("frustrating", toString a.frustrating), ("apdex_min", a.least.text),
      ("apdex_max", a.greatest.text)]

def Data.text : Data → String
  | .timing t => "Timing(" ++ t.text ++ ")"
  | .apdex a => "Apdex(" ++ a.text ++ ")"

end Telemetry.Metric
