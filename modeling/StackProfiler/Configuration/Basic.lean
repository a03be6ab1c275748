import StackProfiler.Capture.Budget
import StackProfiler.Json.Fault
import StackProfiler.Metric
import StackProfiler.Time
/-!
# Configurations

What a session records, how deep it looks and how often it flushes. A configuration need not be in range:
`Configuration.validate` tells.
-/

namespace StackProfiler

/-- The metrics that can be switched off; the others are always recorded. -/
structure EnabledMetrics where
  cpuTime : Bool := true
  allocSamples : Bool := true
  deriving DecidableEq

namespace EnabledMetrics

/-- Whether a metric is recorded. -/
def isEnabled (enabled : EnabledMetrics) : Metric → Bool
  | .cpuTime => enabled.cpuTime
  | .allocSamples => enabled.allocSamples
  | .cpuSamples | .wallTime => true

/-- The value types of every profile, in order. -/
def valueTypes (enabled : EnabledMetrics) : List Metric :=
  Metric.all.filter enabled.isEnabled

end EnabledMetrics

/-- How a session profiles. -/
structure Configuration where
  enabledMetrics : EnabledMetrics := {}
  maxFrames : UInt64 := 400
  flushInterval : Duration := .ofMillis 60000
  deriving DecidableEq

/-- Why a configuration is refused. -/
inductive ConfigurationError
  | invalidMaxFrames (maxFrames : UInt64)
  | flushIntervalTooShort (interval : Duration)
  /-- The text of the configuration cannot be read. -/
  | unreadable (fault : Json.Fault)
  deriving DecidableEq

/-- The wording of a refusal; that of an unreadable text needs the details of the fault. -/
def ConfigurationError.message? : ConfigurationError → Option String
  | .invalidMaxFrames n => some s!"max_frames must be between 0 and 10000, got {n.toNat}"
  | .flushIntervalTooShort interval =>
    some s!"flush_interval must be at least 1ms, got {interval.text}"
  | .unreadable fault => fault.message?.map fun details => s!"invalid configuration: {details}"

namespace Configuration

/-- Whether the frame budget is in range and the flushes are at least a millisecond apart, looked at in
this order. -/
def validate (configuration : Configuration) : Except ConfigurationError Unit :=
  if maxFramesLimit < configuration.maxFrames.toNat then
    .error (.invalidMaxFrames configuration.maxFrames)
  else if configuration.flushInterval < .ofMillis 1 then
    .error (.flushIntervalTooShort configuration.flushInterval)
  else .ok ()

end Configuration

end StackProfiler
