import StackProfiler.Sample
import StackProfiler.Time
/-!
# Stores of samples

What a recorder needs of the thing it records into. A store is in one of two periods of its life: it
takes samples until it is reset, and is then empty until it is told when it starts to take samples
again.
-/

namespace StackProfiler

/-- Something that gathers samples for a fixed list of value types. -/
class ProfileStore (P : Type) where
  /-- An empty store that takes samples from the given instant on. -/
  new : List Metric → Instant → P
  /-- The store with one more sample. -/
  add : Sample → P → P
  /-- What the store held, and the store emptied at the given instant. -/
  reset : Instant → P → P × P
  /-- When the store began to take samples. -/
  startTime : P → Instant
  /-- The store with its start moved to the given instant. -/
  setStartTime : Instant → P → P
  /-- Whether the store holds no sample. -/
  isEmpty : P → Bool

end StackProfiler
