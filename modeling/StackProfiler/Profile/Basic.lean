import StackProfiler.Profile.Store
import StackProfiler.Table
/-!
# Profiles

A profile gathers samples: frames and labels are numbered as they first come, and every pair of a stack
and a set of labels has one entry, in whose values the samples of that pair are summed. The labels of a
pair are kept sorted by number, so that their order in a sample does not matter. Sums stop at the
largest 64-bit number. Each sample's key is built anew here; `ReusingProfile` builds it in the place of
the last one.
-/

namespace StackProfiler

/-- What tells entries apart: the numbers of the frames, in stack order, and those of the labels, in
ascending order. -/
structure SampleKey where
  stack : List UInt32
  labels : List UInt32
  deriving DecidableEq, Hashable, Inhabited

/-- The key of given positions of frames and labels. -/
def SampleKey.ofPositions (frames labels : List Nat) : SampleKey where
  stack := frames.map UInt32.ofNat
  labels := (labels.map UInt32.ofNat).mergeSort (· ≤ ·)

/-- Gathered samples. The sums of an entry stand at the position that `keys` gives its key, one for each
value type. -/
structure Profile where
  startTime : Instant
  valueTypes : List Metric
  locations : Table Frame := {}
  labels : Table Label := {}
  keys : Table SampleKey := {}
  sums : Array (List UInt64) := #[]

/-- An entry of a profile with its numbers resolved. -/
structure Entry where
  /-- The stack, the most recent call first. -/
  frames : List Frame
  /-- The numbers of the frames among the locations of the profile. -/
  stack : List UInt32
  labels : List Label
  /-- One sum for each value type of the profile. -/
  values : List UInt64
  deriving DecidableEq

/-- The sum of two amounts, or the largest amount there is. -/
def addSaturating (a b : UInt64) : UInt64 :=
  UInt64.ofNat (min (a.toNat + b.toNat) (UInt64.size - 1))

namespace Profile

/-- A profile without samples. -/
def new (valueTypes : List Metric) (startTime : Instant) : Profile where
  startTime := startTime
  valueTypes := valueTypes

/-- What a sample adds to its entry: one amount for each value type. -/
def amounts (profile : Profile) (sample : Sample) : List UInt64 :=
  profile.valueTypes.map sample.values.get

/-- Adds the amounts of a sample to the entry of its key, or makes an entry of them. -/
def add (profile : Profile) (sample : Sample) : Profile :=
  let (frames, locations) := profile.locations.internAll sample.frames
  let (labels, labelTable) := profile.labels.internAll sample.labels
  let key := SampleKey.ofPositions frames labels
  let amounts := profile.amounts sample
  let sums := match profile.keys.find? key with
    | some entry => profile.sums.modify entry fun sums => List.zipWith addSaturating sums amounts
    | none => profile.sums.push amounts
  { profile with
    locations := locations, labels := labelTable, keys := (profile.keys.intern key).2, sums := sums }

/-- What the profile held, and the profile emptied. -/
def reset (profile : Profile) (startTime : Instant) : Profile × Profile :=
  (profile, new profile.valueTypes startTime)

/-- The number of entries. -/
def size (profile : Profile) : Nat := profile.sums.size

/-- Whether no sample has been added. -/
def isEmpty (profile : Profile) : Bool := profile.size = 0

/-- The entry of a key with given sums. -/
def entry (profile : Profile) (key : SampleKey) (sums : List UInt64) : Entry where
  frames := key.stack.filterMap fun number => profile.locations.get? number.toNat
  stack := key.stack
  labels := key.labels.filterMap fun number => profile.labels.get? number.toNat
  values := sums

/-- All entries in the order in which they were made. -/
def entries (profile : Profile) : List Entry :=
  List.zipWith profile.entry profile.keys.items.toList profile.sums.toList

/-- The entry that gathers a stack with a set of labels, given in any order. -/
def find? (profile : Profile) (frames : List Frame) (labels : List Label) : Option Entry := do
  let frames ← frames.mapM profile.locations.find?
  let labels ← labels.mapM profile.labels.find?
  let key := SampleKey.ofPositions frames labels
  let sums ← profile.sums[← profile.keys.find? key]?
  return profile.entry key sums

/-- Where a metric first stands among the value types. -/
def position? (profile : Profile) (metric : Metric) : Option Nat :=
  profile.valueTypes.findIdx? (· = metric)

/-- An entry's sum of one metric, if that is a value type. -/
def valueOf? (profile : Profile) (entry : Entry) (metric : Metric) : Option UInt64 := do
  entry.values[← profile.position? metric]?

/-- The sum of a metric over all entries, if that is a value type. -/
def total? (profile : Profile) (metric : Metric) : Option UInt64 := do
  let position ← profile.position? metric
  return profile.sums.foldl (fun sum sums => addSaturating sum (sums.getD position 0)) 0

instance : ProfileStore Profile where
  new := new
  add := fun sample profile => profile.add sample
  reset := fun startTime profile => profile.reset startTime
  startTime := fun profile => profile.startTime
  setStartTime := fun startTime profile => { profile with startTime := startTime }
  isEmpty := isEmpty

end Profile

end StackProfiler
