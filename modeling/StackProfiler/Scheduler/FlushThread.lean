import StackProfiler.Recorder.Flush
/-!
# The flush thread

A thread that flushes a recorder whenever its interval has passed, and once more when it is asked to stop.
Profiles that hold a sample go to an exporter; an exporter that panics ends the thread. The thread holds
the lock of the stop flag except while it waits and while it flushes, so the flag is raised only then.
-/

namespace StackProfiler

/-- Where the flush thread stands: what it does next. `stopping` is what it read from the flag before the
flush it is in. -/
inductive FlushPhase (P : Type)
  /-- Take the lock of the flag for the first time. -/
  | starting
  /-- Look whether it has to wait at all. -/
  | testing
  /-- Wait until the interval has passed or the flag is raised. -/
  | waiting
  /-- Read the flag for the flush to come. -/
  | reading
  /-- Flush the recorder. -/
  | flushing (stopping : Bool) (finish : Instant) (flush : Flush P)
  /-- Hand the profile to the exporter. -/
  | exporting (stopping : Bool) (flushed : Flushed P)
  /-- Take the lock of the flag again. -/
  | resuming (stopping : Bool)
  /-- Nothing: the thread has come to its end. -/
  | exited
  /-- Nothing: the exporter has panicked. -/
  | panicked

/-- A flush thread with the profiles it has handed to its exporter, the first first. -/
structure FlushThread (P : Type) where
  phase : FlushPhase P
  exported : List (Flushed P)

namespace FlushThread

variable {P : Type}

/-- A thread that has just been started. -/
def new : FlushThread P := ⟨.starting, []⟩

/-- Whether the thread holds the lock of the flag. -/
def holdsFlag (thread : FlushThread P) : Bool :=
  match thread.phase with
  | .testing | .reading => true
  | _ => false

/-- Whether the thread has ended, in one way or the other. -/
def ended (thread : FlushThread P) : Bool :=
  match thread.phase with
  | .exited | .panicked => true
  | _ => false

/-- Whether the thread does nothing until time passes or somebody wakes it. -/
def parked (thread : FlushThread P) : Bool :=
  match thread.phase with
  | .waiting | .exited | .panicked => true
  | _ => false

/-- The record of a profile that goes to the exporter: how much time it covers. -/
def exportRecord (flushed : Flushed P) : LogRecord :=
  .debug s!"Flushing profile covering {((flushed.finish.since flushed.start).getD .zero).text}"

/-- **One step of the flush thread.** `stop` is the flag, `now` is on the clock, and `panics` tells of which
of its calls, counted from one, the exporter does not return. There is no step while a flush has to wait,
and none after the end. -/
def step? [ProfileStore P] (stop : Bool) (panics : Nat → Bool) (now : Instant)
    (thread : FlushThread P) (recorder : Recorder P) :
    Option (Logged (FlushThread P × Recorder P)) :=
  let goOn := fun phase => some ⟨({ thread with phase }, recorder), []⟩
  match thread.phase with
  | .starting => goOn .testing
  | .testing => goOn (if stop then .reading else .waiting)
  | .waiting => goOn .reading
  | .reading => goOn (.flushing stop now .entering)
  | .flushing stopping finish flush =>
    match flush.result? with
    | some flushed =>
      if ProfileStore.isEmpty flushed.profile then
        some ⟨({ thread with phase := .resuming stopping }, recorder),
          [.trace "Nothing recorded since last flush, skipping"]⟩
      else
        some ⟨({ thread with phase := .exporting stopping flushed }, recorder),
          [exportRecord flushed]⟩
    | none =>
      (flush.step? finish now recorder).map fun (next, recorder') =>
        ⟨({ thread with phase := .flushing stopping finish next }, recorder'), flush.log⟩
  | .exporting stopping flushed =>
    let exported := thread.exported ++ [flushed]
    let phase := if panics exported.length then .panicked else .resuming stopping
    some ⟨(⟨phase, exported⟩, recorder), []⟩
  | .resuming stopping => goOn (if stopping then .exited else .testing)
  | .exited | .panicked => none

/-- A bound on the steps to where the thread parks, while the flag stays as it is. -/
def stepsLeft (stop : Bool) (thread : FlushThread P) : Nat :=
  match thread.phase with
  | .flushing false _ flush => flush.stepsLeft + 70
  | .exporting false _ => 60
  | .resuming false => 50
  | .starting => 50
  | .testing => 40
  | .reading => if stop then 30 else 90
  | .flushing true _ flush => flush.stepsLeft + 10
  | .exporting true _ => 5
  | .resuming true => 3
  | .waiting | .exited | .panicked => 0

/-- Every step brings a thread that is not parked nearer to where it parks. -/
theorem step?_stepsLeft_lt [ProfileStore P] {stop : Bool} {panics : Nat → Bool} {now : Instant}
    {thread : FlushThread P} {recorder : Recorder P} {next : Logged (FlushThread P × Recorder P)}
    (unparked : thread.parked = false) (h : thread.step? stop panics now recorder = some next) :
    next.value.1.stepsLeft stop < thread.stepsLeft stop := by
  obtain ⟨phase, exported⟩ := thread
  cases phase with
  | starting => cases h; simp [stepsLeft]
  | testing => cases h; cases stop <;> simp [stepsLeft]
  | waiting => cases unparked
  | reading => cases h; cases stop <;> simp [stepsLeft, Flush.stepsLeft]
  | flushing stopping finish flush =>
    simp only [step?] at h
    split at h
    · split at h <;> cases h <;> cases stopping <;> simp [stepsLeft]
    · obtain ⟨⟨flush', recorder'⟩, step, eq⟩ := Option.map_eq_some_iff.1 h
      cases eq
      have := Flush.step?_stepsLeft_lt step
      cases stopping <;> simp [stepsLeft, this]
  | exporting stopping flushed =>
    cases h
    cases panics (exported ++ [flushed]).length <;> cases stopping <;> simp [stepsLeft]
  | resuming stopping => cases h; cases stopping <;> simp [stepsLeft]
  | exited => cases unparked
  | panicked => cases unparked

/-- The steps of a thread to where it parks, with nothing between them; none if a flush would wait for
ever. -/
def run? [ProfileStore P] (stop : Bool) (panics : Nat → Bool) (now : Instant)
    (thread : FlushThread P) (recorder : Recorder P) :
    Option (Logged (FlushThread P × Recorder P)) :=
  if parked : thread.parked then some { value := (thread, recorder) }
  else
    match h : thread.step? stop panics now recorder with
    | none => none
    | some next =>
      have := step?_stepsLeft_lt (by simpa using parked) h
      (run? stop panics now next.value.1 next.value.2).map fun finished =>
        { finished with log := next.log ++ finished.log }
termination_by thread.stepsLeft stop

/-- A parked thread is left as it is; any other makes a step, if it can, and goes on from there. -/
theorem run?_eq [ProfileStore P] (stop : Bool) (panics : Nat → Bool) (now : Instant)
    (thread : FlushThread P) (recorder : Recorder P) :
    thread.run? stop panics now recorder =
      if thread.parked then some { value := (thread, recorder) }
      else
        (thread.step? stop panics now recorder).bind fun next =>
          (run? stop panics now next.value.1 next.value.2).map fun finished =>
            { finished with log := next.log ++ finished.log } := by
  rw [run?]
  split
  · rfl
  · split <;> simp [*]

end FlushThread

end StackProfiler
