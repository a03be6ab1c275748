import StackProfiler.Profile.Basic
/-!
# Profiles that reuse their key

To add a sample a profile needs the sample's key, and a sample that is not new leaves nothing but sums
behind. So that no room is taken for its key, the profile keeps the one that it has built last and
builds the next in its place. A key that is kept is stale: it is cleared before it is used, and a reset
leaves it with the profile that goes on.
-/

namespace StackProfiler

/-- The numbers of several items, each put behind those there are as soon as it is known. -/
def Table.pushAll {α : Type} [BEq α] [Hashable α] (table : Table α) (numbers : List UInt32) :
    List α → List UInt32 × Table α
  | [] => (numbers, table)
  | item :: items =>
    let (position, table) := table.intern item
    table.pushAll (numbers ++ [UInt32.ofNat position]) items

/-- A profile with the key that it has built last. -/
structure ReusingProfile where
  profile : Profile
  scratch : SampleKey

namespace ReusingProfile

/-- A profile without samples, which has built no key. -/
def new (valueTypes : List Metric) (startTime : Instant) : ReusingProfile where
  profile := .new valueTypes startTime
  scratch := default

/-- The key taken out, so that it can be built while the profile changes. -/
def takeScratch (reusing : ReusingProfile) : SampleKey × ReusingProfile :=
  (reusing.scratch, { reusing with scratch := default })

/-- Adds a sample. Its key is built in the place of the last, number by number, and kept for the next. -/
def add (reusing : ReusingProfile) (sample : Sample) : ReusingProfile :=
  let (key, reusing) := reusing.takeScratch
  let profile := reusing.profile
  let key := { key with stack := [] }
  let key := { key with labels := [] }
  let (stack, locations) := profile.locations.pushAll key.stack sample.frames
  let (labels, labelTable) := profile.labels.pushAll key.labels sample.labels
  let key := { key with stack := stack, labels := labels.mergeSort (· ≤ ·) }
  let amounts := profile.amounts sample
  let sums := match profile.keys.find? key with
    | some entry => profile.sums.modify entry fun sums => List.zipWith addSaturating sums amounts
    | none => profile.sums.push amounts
  { reusing with
    profile := { profile with
      locations := locations, labels := labelTable, keys := (profile.keys.intern key).2
      sums := sums }
    scratch := key }

/-- Two profiles with their keys exchanged. -/
def swapScratch (one two : ReusingProfile) : ReusingProfile × ReusingProfile :=
  ({ one with scratch := two.scratch }, { two with scratch := one.scratch })

/-- What the profile held, and the profile emptied, which keeps the key. -/
def reset (reusing : ReusingProfile) (startTime : Instant) : ReusingProfile × ReusingProfile :=
  let (fresh, held) := swapScratch (new reusing.profile.valueTypes startTime) reusing
  (held, fresh)

instance : ProfileStore ReusingProfile where
  new := new
  add := fun sample reusing => reusing.add sample
  reset := fun startTime reusing => reusing.reset startTime
  startTime := fun reusing => reusing.profile.startTime
  setStartTime := fun startTime reusing =>
    { reusing with profile := { reusing.profile with startTime := startTime } }
  isEmpty := fun reusing => reusing.profile.isEmpty

end ReusingProfile

end StackProfiler
