import StackProfiler.Sample.Error
/-!
# Metrics

The kinds of values a sample carries, and one value of each kind. `Metric.ofName?` reads exactly the
names that `Metric.name` gives.
-/

namespace StackProfiler

/-- A kind of value. -/
inductive Metric
  | cpuTime
  | cpuSamples
  | wallTime
  | allocSamples
  deriving DecidableEq, Inhabited

namespace Metric

/-- Every metric, in the order in which profiles declare them. -/
def all : List Metric := [.cpuTime, .cpuSamples, .wallTime, .allocSamples]

/-- The name by which callers and encoded profiles call a metric. -/
def name : Metric → String
  | .cpuTime => "cpu-time"
  | .cpuSamples => "cpu-samples"
  | .wallTime => "wall-time"
  | .allocSamples => "alloc-samples"

/-- Times are counted in nanoseconds, samples one by one. -/
def unit : Metric → String
  | .cpuTime | .wallTime => "nanoseconds"
  | .cpuSamples | .allocSamples => "count"

/-- The metric's word in log records. -/
def word : Metric → String
  | .cpuTime => "CpuTime"
  | .cpuSamples => "CpuSamples"
  | .wallTime => "WallTime"
  | .allocSamples => "AllocSamples"

/-- The metric of a name. -/
def ofName? (name : String) : Option Metric :=
  all.find? fun metric => metric.name = name

/-- Every metric is listed. -/
theorem mem_all (metric : Metric) : metric ∈ all := by
  cases metric <;> decide

/-- A name is read back as the metric it names, and no other text is. -/
theorem ofName?_eq_some_iff {name : String} {metric : Metric} :
    ofName? name = some metric ↔ name = metric.name := by
  constructor
  · intro h
    have named := List.find?_some h
    exact (of_decide_eq_true named).symm
  · rintro rfl
    cases metric <;> decide

/-- The metric of a name, or the fault that there is none. -/
def named (name : String) : Except SampleError Metric :=
  match ofName? name with
  | some metric => .ok metric
  | none => .error (.unknownMetric name)

end Metric

/-- One value for each metric. -/
structure MetricValues where
  cpuTime : UInt64 := 0
  cpuSamples : UInt64 := 0
  wallTime : UInt64 := 0
  allocSamples : UInt64 := 0
  deriving DecidableEq, Inhabited

namespace MetricValues

/-- The value of one metric. -/
def get (values : MetricValues) : Metric → UInt64
  | .cpuTime => values.cpuTime
  | .cpuSamples => values.cpuSamples
  | .wallTime => values.wallTime
  | .allocSamples => values.allocSamples

/-- The values with one of them replaced. -/
def set (values : MetricValues) (metric : Metric) (value : UInt64) : MetricValues :=
  match metric with
  | .cpuTime => { values with cpuTime := value }
  | .cpuSamples => { values with cpuSamples := value }
  | .wallTime => { values with wallTime := value }
  | .allocSamples => { values with allocSamples := value }

/-- Only the metric that is set changes. -/
theorem get_set (values : MetricValues) (metric other : Metric) (value : UInt64) :
    (values.set metric value).get other = if other = metric then value else values.get other := by
  cases metric <;> cases other <;> rfl

/-- Sets the named values one after the other; the first unknown name is an error. -/
def setNamed (values : MetricValues) (pairs : List (String × UInt64)) :
    Except SampleError MetricValues :=
  pairs.foldlM (fun values pair => return values.set (← Metric.named pair.1) pair.2) values

/-- The values of a list of named ones; metrics that are not mentioned are zero. -/
def ofPairs (pairs : List (String × UInt64)) : Except SampleError MetricValues :=
  setNamed {} pairs

end MetricValues

end StackProfiler
