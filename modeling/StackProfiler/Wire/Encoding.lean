import StackProfiler.Profile.Basic
import StackProfiler.Recorder.Basic
import StackProfiler.Wire.Basic
/-!
# Encoding a flushed profile

Every frame of a profile becomes a location, a line of a function; functions and locations are numbered as
they first come. Frames that differ make different locations, so an encoded stack has the numbers that
the stack has in the profile.
-/

namespace StackProfiler

namespace Wire

/-- The functions and locations of a profile. -/
structure Tables where
  functions : Table Function := {}
  locations : Table Location := {}

namespace Tables

/-- The function that a frame is in. -/
def functionOf (frame : Frame) : Function where
  implementation := if frame.isNative then .native else .managed
  name := frame.name
  filename := frame.filename

/-- The number of a frame's location, with the tables that hold it. -/
def intern (tables : Tables) (frame : Frame) : UInt64 × Tables :=
  let (function, functions) := tables.functions.intern (functionOf frame)
  let (location, locations) := tables.locations.intern ⟨UInt64.ofNat function, frame.line⟩
  (UInt64.ofNat location, ⟨functions, locations⟩)

/-- The numbers of the locations of several frames. -/
def internAll (tables : Tables) : List Frame → List UInt64 × Tables
  | [] => ([], tables)
  | frame :: frames =>
    let (location, tables) := tables.intern frame
    let (locations, tables) := tables.internAll frames
    (location :: locations, tables)

end Tables

/-- A label with its text or its number given. -/
def Label.ofLabel (label : StackProfiler.Label) : Label :=
  match label.value with
  | .str text => ⟨label.key, some text, none⟩
  | .num number => ⟨label.key, none, some number⟩

/-- A metric with its unit. -/
def ValueType.ofMetric (metric : Metric) : ValueType := ⟨metric.name, metric.unit⟩

/-- An entry of a profile whose frames have the given locations. -/
def Sample.ofEntry (locations : Array UInt64) (entry : Entry) : Sample where
  stack := entry.stack.filterMap fun frame => locations[frame.toNat]?
  labels := entry.labels.map Label.ofLabel
  values := entry.values

/-- The nanoseconds from one instant to another, and none if the other is earlier. -/
def nanosSince (t earlier : Instant) : BitVec 128 :=
  BitVec.ofNat 128 ((t.since earlier).getD .zero).nanos

/-- The encoded form of a flushed profile. -/
def Profile.encode (flushed : Flushed StackProfiler.Profile) : Profile :=
  let source := flushed.profile
  let (locations, tables) := Tables.internAll {} source.locations.items.toList
  { startTimestampNs := nanosSince flushed.start .epoch
    durationNs := nanosSince flushed.finish flushed.start
    valueTypes := source.valueTypes.map ValueType.ofMetric
    samples := source.entries.map (Sample.ofEntry locations.toArray)
    locations := tables.locations.items.toList
    functions := tables.functions.items.toList }

end Wire

end StackProfiler
