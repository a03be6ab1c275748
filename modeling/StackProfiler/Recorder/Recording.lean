import StackProfiler.Recorder.Basic
/-!
# Recording a sample

A recording tries the lock of slot one and then that of slot two, for a few rounds. It adds its sample
to the store of the first slot it can lock and gives the lock back; if it can lock none, the sample is
dropped and counted. It never waits. Each step is one action on what the recorder shares with others, so
steps of a flush may come between any two of them; `Recorder.record` is a recording on its own.
-/

namespace StackProfiler

/-- How many times a recording tries both slots. -/
def slotLockAttempts : Nat := 3

/-- Where a recording stands: what it does next. -/
inductive Recording
  /-- Try the lock of a slot. -/
  | trying (round : Nat) (slot : SlotId)
  /-- Add the sample to the slot it has locked. -/
  | adding (slot : SlotId)
  /-- Give the lock back. -/
  | releasing (slot : SlotId)
  /-- Count the sample as dropped. -/
  | dropping
  /-- Nothing. -/
  | done (outcome : Except RecordError Unit)

namespace Recording

variable {P : Type}

/-- How a recording begins. -/
def start : Recording := .trying 0 .one

/-- What comes after a lock that was taken: the other slot, the next round, or giving up. -/
def afterMiss (round : Nat) : SlotId → Recording
  | .one => .trying round .two
  | .two => if round + 1 < slotLockAttempts then .trying (round + 1) .one else .dropping

/-- The call on a store that the next step makes. -/
def storeCall? (sample : Sample) : Recording → Option (SlotId × StoreCall)
  | .adding slot => some (slot, .add sample)
  | _ => none

/-- What the next step logs. -/
def log : Recording → List LogRecord
  | .dropping => [.debug "No active profile slot found. Dropping sample."]
  | _ => []

/-- The outcome, once there is one. -/
def outcome? : Recording → Option (Except RecordError Unit)
  | .done outcome => some outcome
  | _ => none

/-- A bound on the steps that are left. -/
def stepsLeft : Recording → Nat
  | .trying round .one => 2 * (slotLockAttempts - round) + 5
  | .trying round .two => 2 * (slotLockAttempts - round) + 4
  | .adding _ => 3
  | .releasing _ => 2
  | .dropping => 2
  | .done _ => 0

/-- **One step of a recording.** -/
def step [ProfileStore P] (sample : Sample) (recorder : Recorder P) :
    Recording → Recording × Recorder P
  | .trying round slot =>
    if (recorder.slot slot).locked then (afterMiss round slot, recorder)
    else (.adding slot, recorder.setLocked slot true)
  | .adding slot =>
    (.releasing slot,
      recorder.setStore slot (ProfileStore.add sample (recorder.slot slot).store))
  | .releasing slot => (.done (.ok ()), recorder.setLocked slot false)
  | .dropping => (.done (.error .noActiveSlot), { recorder with dropped := recorder.dropped + 1 })
  | .done outcome => (.done outcome, recorder)

/-- Every step brings a recording nearer to its end. -/
theorem step_stepsLeft_lt [ProfileStore P] {sample : Sample} {recorder : Recorder P}
    {recording : Recording} (h : recording.outcome? = none) :
    (recording.step sample recorder).1.stepsLeft < recording.stepsLeft := by
  cases recording with
  | trying round slot =>
    simp only [step]
    split
    · cases slot with
      | one => simp only [afterMiss, stepsLeft]; omega
      | two =>
        simp only [afterMiss]
        split <;> simp only [stepsLeft] <;> omega
    · cases slot <;> simp only [stepsLeft] <;> omega
  | adding => simp [step, stepsLeft]
  | releasing => simp [step, stepsLeft]
  | dropping => simp [step, stepsLeft]
  | done => cases h

/-- The steps of a recording to its end, with nothing between them. -/
def run [ProfileStore P] (sample : Sample) (recorder : Recorder P) (recording : Recording) :
    Logged (Except RecordError Unit × Recorder P) :=
  match h : recording.outcome? with
  | some outcome => { value := (outcome, recorder) }
  | none =>
    let next := recording.step sample recorder
    have : next.1.stepsLeft < recording.stepsLeft := step_stepsLeft_lt h
    let finished := run sample next.2 next.1
    { finished with log := recording.log ++ finished.log }
termination_by recording.stepsLeft

/-- A recording at its end is left as it is. -/
theorem run_done [ProfileStore P] (sample : Sample) (recorder : Recorder P)
    (outcome : Except RecordError Unit) :
    run sample recorder (.done outcome) = { value := (outcome, recorder) } := by
  rw [run]
  simp [outcome?]

/-- A recording that is not at its end makes a step and goes on from there. -/
theorem run_of_outcome?_eq_none [ProfileStore P] (sample : Sample) (recorder : Recorder P)
    {recording : Recording} (h : recording.outcome? = none) :
    run sample recorder recording =
      let next := recording.step sample recorder
      let finished := run sample next.2 next.1
      { finished with log := recording.log ++ finished.log } := by
  rw [run]
  split
  · next outcome => rw [outcome] at h; cases h
  · rfl

end Recording

/-- Records a sample while nobody else uses the recorder. -/
def Recorder.record {P : Type} [ProfileStore P] (recorder : Recorder P) (sample : Sample) :
    Logged (Except RecordError Unit × Recorder P) :=
  Recording.start.run sample recorder

end StackProfiler
