import StackProfiler.Scheduler.FlushThread
import StackProfiler.Session.Error
/-!
# Flush schedulers

A scheduler owns a flush thread and the flag that stops it. Stopping raises the flag, wakes the thread
and waits for its end, so everything recorded before the stop has been flushed when it returns.
-/

namespace StackProfiler

/-- The least time between two flushes. -/
def minFlushInterval : Duration := .ofMillis 1

/-- A running flush thread and its stop flag. -/
structure Scheduler (P : Type) where
  interval : Duration
  stopRequested : Bool
  thread : FlushThread P

namespace Scheduler

variable {P : Type}

/-- Starts a flush thread, unless the interval is too short. -/
def start (interval : Duration) : Logged (Except SchedulerError (Scheduler P)) :=
  if interval < minFlushInterval then { value := .error (.intervalTooShort interval) }
  else
    { value := .ok ⟨interval, false, .new⟩
      log := [.debug s!"Flush thread started (interval: {interval.text})"] }

/-- How many references to the recorder there are besides those of its owners: the thread has one until
it ends. -/
def references (scheduler : Scheduler P) : Nat :=
  if scheduler.thread.ended then 0 else 1

variable [ProfileStore P]

/-- Lets the thread go on to where it waits, and from there through one more interval. -/
def elapse? (panics : Nat → Bool) (now : Instant) (scheduler : Scheduler P)
    (recorder : Recorder P) : Option (Logged (Scheduler P × Recorder P)) := do
  let idle ← scheduler.thread.run? scheduler.stopRequested panics now recorder
  let woken ← idle.value.1.step? scheduler.stopRequested panics now idle.value.2
  let parked ← woken.value.1.run? scheduler.stopRequested panics now woken.value.2
  return ⟨({ scheduler with thread := parked.value.1 }, parked.value.2),
    idle.log ++ woken.log ++ parked.log⟩

/-- Raises the stop flag and lets the thread run to its end. -/
def stop? (panics : Nat → Bool) (now : Instant) (scheduler : Scheduler P)
    (recorder : Recorder P) : Option (Logged (Scheduler P × Recorder P)) := do
  let woken ← match scheduler.thread.phase with
    | .waiting => scheduler.thread.step? true panics now recorder
    | _ => some { value := (scheduler.thread, recorder) }
  let ended ← woken.value.1.run? true panics now woken.value.2
  let panicked := match ended.value.1.phase with
    | .panicked => [LogRecord.warn "Flush thread panicked"]
    | _ => []
  return ⟨(⟨scheduler.interval, true, ended.value.1⟩, ended.value.2),
    woken.log ++ ended.log ++ panicked ++ [.debug "Flush thread stopped"]⟩

end Scheduler

end StackProfiler
