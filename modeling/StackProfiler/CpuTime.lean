import StackProfiler.Time
/-!
# CPU time

The CPU time a thread has used is read from a clock of that thread. `CpuTracker` turns the readings of
one clock into the amounts that successive samples are charged with.
-/

namespace StackProfiler

/-- A clock of the CPU time of one thread. -/
inductive CpuClock
  /-- The clock of whichever thread reads it. -/
  | current
  /-- The clock of one thread, whoever reads it. -/
  | ofThread (thread : Nat)
  deriving DecidableEq

/-- The CPU time of every thread; a thread that does not run, or no longer does, has none. -/
abbrev CpuTimes := Nat → Option Duration

/-- What the clock shows when `reader` reads it. -/
def CpuClock.now (clock : CpuClock) (reader : Nat) (times : CpuTimes) : Option Duration :=
  match clock with
  | .current => times reader
  | .ofThread thread => times thread

/-- The last reading of a clock, if there was one. -/
structure CpuTracker where
  last : Option Duration := none
  deriving DecidableEq

namespace CpuTracker

/-- Takes a reading and gives the nanoseconds since the one before it, at most `2 ^ 64 - 1`. The first
reading gives zero, and so does one that is not above the last. -/
def observe (tracker : CpuTracker) (now : Duration) : UInt64 × CpuTracker :=
  let elapsed := match tracker.last with
    | some last => now.saturatingSub last
    | none => .zero
  (UInt64.ofNat (min elapsed.nanos (UInt64.size - 1)), ⟨some now⟩)

/-- The amounts that a run of readings gives, one after the other. -/
def observeAll (tracker : CpuTracker) : List Duration → List UInt64
  | [] => []
  | now :: later =>
    let (delta, tracker) := tracker.observe now
    delta :: tracker.observeAll later

end CpuTracker

end StackProfiler
