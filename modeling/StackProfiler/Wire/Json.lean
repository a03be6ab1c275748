import StackProfiler.Json.Record
import StackProfiler.Json.Writer
import StackProfiler.Wire.Basic
/-!
# Encoded profiles as JSON

The text of an encoded profile, and reading it back. The fields are written in the order of their
declaration, and a label's `str` or `num` that is not given is left out; when it is read, null means not
given too.
-/

namespace StackProfiler

namespace Wire

open Json

/-! ## Writing -/

/-- The text of a value type. -/
def ValueType.write (valueType : ValueType) : List Char :=
  writeObject [("type", writeString valueType.type), ("unit", writeString valueType.unit)]

/-- The text of a label. -/
def Label.write (label : Label) : List Char :=
  writeObject <|
    [("key", writeString label.key)] ++
      (label.str.map fun text => ("str", writeString text)).toList ++
      (label.num.map fun number => ("num", writeInt number.toInt)).toList

/-- The text of a sample. -/
def Sample.write (sample : Sample) : List Char :=
  writeObject [
    ("stack", writeList (fun index => writeNat index.toNat) sample.stack),
    ("labels", writeList Label.write sample.labels),
    ("values", writeList (fun value => writeNat value.toNat) sample.values)]

/-- The text of a location. -/
def Location.write (location : Location) : List Char :=
  writeObject [
    ("function_index", writeNat location.functionIndex.toNat),
    ("lineno", writeNat location.lineno.toNat)]

/-- The text of a function. -/
def Function.write (function : Function) : List Char :=
  writeObject [
    ("implementation", writeString function.implementation.name),
    ("name", writeString function.name),
    ("filename", writeString function.filename)]

/-- The text of an encoded profile. -/
def Profile.write (profile : Profile) : List Char :=
  writeObject [
    ("start_timestamp_ns", writeNat profile.startTimestampNs.toNat),
    ("duration_ns", writeNat profile.durationNs.toNat),
    ("value_types", writeList ValueType.write profile.valueTypes),
    ("samples", writeList Sample.write profile.samples),
    ("locations", writeList Location.write profile.locations),
    ("functions", writeList Function.write profile.functions)]

/-! ## Reading -/

/-- The fields of a value type. -/
def ValueType.shape : Shape ValueType where
  name := "ValueType"
  fields := [.required "type" .string, .required "unit" .string]
  build := fun (type, unit, _) => { type, unit }

/-- The fields of a label. -/
def Label.shape : Shape Label where
  name := "Label"
  fields := [
    .required "key" .string,
    .optional "str" Reader.string.option none,
    .optional "num" Reader.signed64.option none]
  build := fun (key, str, num, _) => { key, str, num }

/-- The fields of a sample. -/
def Sample.shape : Shape Sample where
  name := "Sample"
  fields := [
    .required "stack" Reader.count.list,
    .required "labels" Label.shape.reader.list,
    .required "values" Reader.word64.list]
  build := fun (stack, labels, values, _) => { stack, labels, values }

/-- The fields of a location. -/
def Location.shape : Shape Location where
  name := "Location"
  fields := [.required "function_index" .count, .required "lineno" .word32]
  build := fun (functionIndex, lineno, _) => { functionIndex, lineno }

/-- The fields of a function. -/
def Function.shape : Shape Function where
  name := "Function"
  fields := [
    .required "implementation" (.variant Implementation.names),
    .required "name" .string,
    .required "filename" .string]
  build := fun (implementation, name, filename, _) => { implementation, name, filename }

/-- The fields of an encoded profile. -/
def Profile.shape : Shape Profile where
  name := "Profile"
  fields := [
    .required "start_timestamp_ns" .word128,
    .required "duration_ns" .word128,
    .required "value_types" ValueType.shape.reader.list,
    .required "samples" Sample.shape.reader.list,
    .required "locations" Location.shape.reader.list,
    .required "functions" Function.shape.reader.list]
  build := fun (startTimestampNs, durationNs, valueTypes, samples, locations, functions, _) =>
    { startTimestampNs, durationNs, valueTypes, samples, locations, functions }

/-- The encoded profile in a text. -/
def Profile.ofJson (s : List Char) : Except Fault Profile :=
  shape.reader.whole s

end Wire

end StackProfiler
