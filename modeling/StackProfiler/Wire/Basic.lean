/-!
# Encoded profiles

The shape in which profiles leave the program. Samples refer to locations and locations to functions by
their positions in the lists of the profile.
-/

namespace StackProfiler

namespace Wire

/-- A kind of value and what it is counted in. -/
structure ValueType where
  type : String
  unit : String
  deriving DecidableEq

/-- A label, of which one of `str` and `num` is meant to be given. -/
structure Label where
  key : String
  str : Option String
  num : Option Int64
  deriving DecidableEq

/-- An entry of the profile: the positions of its locations, the most recent call first, and one value
for each value type. -/
structure Sample where
  stack : List UInt64
  labels : List Label
  values : List UInt64
  deriving DecidableEq

/-- A line of a function. -/
structure Location where
  functionIndex : UInt64
  lineno : UInt32
  deriving DecidableEq, Hashable

/-- Whether the host runtime runs a function or the machine does. -/
inductive Implementation
  | managed
  | native
  deriving DecidableEq, Hashable

/-- A function of the program. -/
structure Function where
  implementation : Implementation
  name : String
  filename : String
  deriving DecidableEq, Hashable

/-- An encoded profile. -/
structure Profile where
  startTimestampNs : BitVec 128
  durationNs : BitVec 128
  valueTypes : List ValueType
  samples : List Sample
  locations : List Location
  functions : List Function
  deriving DecidableEq

/-- The names of the implementations. -/
def Implementation.names : List (String × Implementation) :=
  [("Managed", .managed), ("Native", .native)]

/-- The name of an implementation. -/
def Implementation.name : Implementation → String
  | .managed => "Managed"
  | .native => "Native"

end Wire

end StackProfiler
