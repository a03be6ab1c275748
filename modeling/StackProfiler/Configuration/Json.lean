import StackProfiler.Configuration.Basic
import StackProfiler.Json.Record
import StackProfiler.Json.Writer
/-!
# Configurations as JSON

The flush interval is written in whole milliseconds. A text may leave out any field, which then has its
default; a configuration that is read is in range.
-/

namespace StackProfiler

open Json

/-! ## Writing -/

/-- The switches of the metrics. -/
def EnabledMetrics.write (enabled : EnabledMetrics) : List Char :=
  writeObject [
    ("cpu_time", writeBool enabled.cpuTime),
    ("alloc_samples", writeBool enabled.allocSamples)]

/-- The text of a configuration. -/
def Configuration.write (configuration : Configuration) : List Char :=
  writeObject [
    ("enabled_metrics", configuration.enabledMetrics.write),
    ("max_frames", writeNat configuration.maxFrames.toNat),
    ("flush_interval", writeNat configuration.flushInterval.millis.toNat)]

/-! ## Reading -/

/-- The switches, each on where it is not given. -/
def EnabledMetrics.shape : Shape EnabledMetrics where
  name := "EnabledMetrics"
  fields := [.optional "cpu_time" .boolean true, .optional "alloc_samples" .boolean true]
  build := fun (cpuTime, allocSamples, _) => { cpuTime, allocSamples }

/-- The fields of a configuration with their defaults. -/
def Configuration.shape : Shape Configuration where
  name := "Configuration"
  fields := [
    .optional "enabled_metrics" EnabledMetrics.shape.reader {},
    .optional "max_frames" .count 400,
    .optional "flush_interval" (Reader.word64.map Duration.ofMillis) (.ofMillis 60000)]
  build := fun (enabledMetrics, maxFrames, flushInterval, _) =>
    { enabledMetrics, maxFrames, flushInterval }

/-- The configuration in a text, if it is in range. -/
def Configuration.ofJson (s : List Char) : Except ConfigurationError Configuration :=
  match shape.reader.whole s with
  | .error fault => .error (.unreadable fault)
  | .ok configuration =>
    match configuration.validate with
    | .error error => .error error
    | .ok () => .ok configuration

end StackProfiler
