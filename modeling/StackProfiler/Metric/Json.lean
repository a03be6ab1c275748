import StackProfiler.Json.Value
import StackProfiler.Metric
/-!
# Metrics as JSON

A metric is written as the string of its name.
-/

namespace StackProfiler

/-- The text of a metric. -/
def Metric.write (metric : Metric) : List Char :=
  Json.writeString metric.name

/-- Reads the name of a metric. -/
def Metric.reader : Json.Reader Metric :=
  .variant (all.map fun metric => (metric.name, metric))

/-- The metric in a text. -/
def Metric.ofJson (s : List Char) : Except Json.Fault Metric :=
  reader.whole s

end StackProfiler
