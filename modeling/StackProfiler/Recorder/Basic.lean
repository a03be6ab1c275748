import StackProfiler.Configuration.Basic
import StackProfiler.Log
import StackProfiler.Profile.Store
/-!
# Recorders

A recorder has two slots, each a store behind a lock. One slot is active: it is the one whose lock is
free, and a recording goes to whichever slot it can lock. The other slot is held locked by the recorder
itself, its store empty, until a flush makes it the active one and takes what the first has gathered.
`Recording` and `Flush` say step by step how this is done.
-/

namespace StackProfiler

/-- The two slots of a recorder. -/
inductive SlotId
  | one
  | two
  deriving DecidableEq

namespace SlotId

/-- The slot that is not this one. -/
def other : SlotId → SlotId
  | .one => .two
  | .two => .one

/-- The number by which log records and diagnostics call a slot. -/
def number : SlotId → Nat
  | .one => 1
  | .two => 2

end SlotId

/-- A store and the state of its lock. -/
structure Slot (P : Type) where
  locked : Bool
  store : P

/-- A call that a recorder makes on a store. -/
inductive StoreCall
  | add (sample : Sample)
  | setStartTime (startTime : Instant)
  | reset (startTime : Instant)
  deriving DecidableEq

/-- What a flush takes out of a recorder. -/
structure Flushed (P : Type) where
  /-- When the profile began to take samples. -/
  start : Instant
  finish : Instant
  /-- When the next profile began to take samples. -/
  nextStart : Instant
  profile : P

/-- Why a sample is not recorded. -/
inductive RecordError
  /-- Neither slot could be locked. -/
  | noActiveSlot
  deriving DecidableEq

/-- The wording of a refusal. -/
def RecordError.message : RecordError → String
  | .noActiveSlot => "no active profile slot found, sample dropped"

/-- Two stores of which one takes samples at a time. -/
structure Recorder (P : Type) where
  enabled : EnabledMetrics
  one : Slot P
  two : Slot P
  /-- The slot whose store takes samples, as flushes see it. -/
  active : SlotId
  /-- Whether a flush holds the lock that keeps flushes apart. -/
  flushing : Bool
  /-- How many samples found no slot. -/
  dropped : UInt64

namespace Recorder

variable {P : Type}

/-- The value types of the recorder's profiles. -/
def valueTypes (recorder : Recorder P) : List Metric := recorder.enabled.valueTypes

/-- The slot of a name. -/
def slot (recorder : Recorder P) : SlotId → Slot P
  | .one => recorder.one
  | .two => recorder.two

/-- The recorder with one slot replaced. -/
def setSlot (recorder : Recorder P) (id : SlotId) (slot : Slot P) : Recorder P :=
  match id with
  | .one => { recorder with one := slot }
  | .two => { recorder with two := slot }

/-- The recorder with the lock of a slot taken or given back. -/
def setLocked (recorder : Recorder P) (id : SlotId) (locked : Bool) : Recorder P :=
  recorder.setSlot id { recorder.slot id with locked }

/-- The recorder with the store of a slot replaced. -/
def setStore (recorder : Recorder P) (id : SlotId) (store : P) : Recorder P :=
  recorder.setSlot id { recorder.slot id with store }

@[simp]
theorem slot_setSlot (recorder : Recorder P) (id other : SlotId) (slot : Slot P) :
    (recorder.setSlot id slot).slot other = if other = id then slot else recorder.slot other := by
  cases id <;> cases other <;> rfl

@[simp]
theorem active_setSlot (recorder : Recorder P) (id : SlotId) (slot : Slot P) :
    (recorder.setSlot id slot).active = recorder.active := by
  cases id <;> rfl

@[simp]
theorem flushing_setSlot (recorder : Recorder P) (id : SlotId) (slot : Slot P) :
    (recorder.setSlot id slot).flushing = recorder.flushing := by
  cases id <;> rfl

variable [ProfileStore P]

/-- A recorder whose first slot takes samples from the given instant on; the second is held back. -/
def new (enabled : EnabledMetrics) (now : Instant) : Recorder P where
  enabled := enabled
  one := ⟨false, ProfileStore.new enabled.valueTypes now⟩
  two := ⟨true, ProfileStore.new enabled.valueTypes now⟩
  active := .one
  flushing := false
  dropped := 0

/-- The recorder made anew, whatever state its locks are in. -/
def resetAfterFork (recorder : Recorder P) (now : Instant) : Logged (Recorder P) where
  value := new recorder.enabled now
  log := [.debug "Stack recorder reset"]

end Recorder

end StackProfiler
