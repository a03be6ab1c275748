import StackProfiler.Frame
import StackProfiler.Label
import StackProfiler.Metric
/-!
# Samples

A captured stack with its labels and values, ready to be recorded.
-/

namespace StackProfiler

/-- A captured stack, the most recent call first, with its labels and values. -/
structure Sample where
  frames : List Frame
  labels : List Label
  values : MetricValues
  deriving DecidableEq, Inhabited

/-- A sample of checked labels. -/
def Sample.checked (frames : List Frame) (labels : List Label) (values : MetricValues) :
    Except SampleError Sample := do
  Label.check labels
  return ⟨frames, labels, values⟩

end StackProfiler
