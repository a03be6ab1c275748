import StackProfiler.Text.Quoted
/-!
# What can be wrong with a sample

The faults of the input of a capture or a recording. All of them are found before anything is walked
or recorded.
-/

namespace StackProfiler

/-- A fault in what a caller asks to be sampled. -/
inductive SampleError
  /-- The frame budget is negative or too large. -/
  | invalidMaxFrames (maxFrames : Int64)
  /-- A label has no key. -/
  | emptyLabelKey
  /-- Two labels have the same key. -/
  | duplicateLabelKey (key : String)
  /-- No metric has this name. -/
  | unknownMetric (name : String)
  deriving DecidableEq

/-- The wording of a fault. -/
def SampleError.message : SampleError → String
  | .invalidMaxFrames n => s!"invalid max_frames {n.toInt}: must be between 0 and 10000"
  | .emptyLabelKey => "label key must not be empty"
  | .duplicateLabelKey key => s!"duplicate label key {Text.quoted key}"
  | .unknownMetric name => s!"unknown metric {Text.quoted name}"

end StackProfiler
