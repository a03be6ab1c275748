import StackProfiler.Capture.Collector
import StackProfiler.Scheduler.Basic
/-!
# Sessions

A session has a recorder while it is started. Others may go on using a recorder that the session has let
go of, so a session keeps every recorder it has made, under a number by which it is shared. What a
caller asks for is checked before anything else happens, and a session that is not started drops samples.
-/

namespace StackProfiler

/-- The number of a recorder that a session has made. -/
abbrev RecorderId := Nat

/-- A configuration, the recorders made so far, and which of them is in use. -/
structure Session (P : Type) where
  configuration : Configuration
  recorders : Array (Recorder P)
  current : Option RecorderId
  current_lt : ∀ id ∈ current, id < recorders.size

/-- A capture as a session is asked for it, with texts and numbers for labels. -/
structure SessionRequest (T : Type) where
  thread : T
  maxFrames : Int64
  inGc : Bool
  values : MetricValues
  texts : List (String × String)
  numbers : List (String × Int64)

/-- An attempt to capture into a session. -/
structure SessionSampled (P T R : Type) where
  result : Except SampleError RecordOutcome
  calls : List (SourceCall T R)
  log : List LogRecord
  collector : Collector R
  session : Session P

namespace Session

variable {P : Type}

/-- A session that is not started. -/
def new (configuration : Configuration) : Session P :=
  ⟨configuration, #[], none, by simp⟩

/-- Whether the session has a recorder. -/
def isStarted (session : Session P) : Bool := session.current.isSome

/-- The recorder of a number. -/
def recorderAt? (session : Session P) (id : RecorderId) : Option (Recorder P) :=
  session.recorders[id]?

/-- The session with one recorder replaced by a later state of it. -/
def setRecorder (session : Session P) (id : RecorderId) (recorder : Recorder P) : Session P where
  configuration := session.configuration
  recorders := session.recorders.setIfInBounds id recorder
  current := session.current
  current_lt := by simpa using session.current_lt

/-- The session with a recorder more, which is the one in use. -/
def useRecorder (session : Session P) (recorder : Recorder P) : Session P where
  configuration := session.configuration
  recorders := session.recorders.push recorder
  current := some session.recorders.size
  current_lt := by simp

/-- The session without a recorder in use. -/
def release (session : Session P) : Session P :=
  { session with current := none, current_lt := by simp }

/-- The number of the recorder in use. -/
def recorder (session : Session P) : Except SessionError RecorderId :=
  match session.current with
  | some id => .ok id
  | none => .error .notInitialized

/-- Does something with a recorder; none if there is no recorder of this number or it waits for ever. -/
def withRecorder? {α : Type} (session : Session P) (id : RecorderId)
    (act : Recorder P → Option (Logged (α × Recorder P))) : Option (Logged (α × Session P)) := do
  let acted ← act (← session.recorderAt? id)
  return ⟨(acted.value.1, session.setRecorder id acted.value.2), acted.log⟩

variable [ProfileStore P]

/-- Starts the session with a new recorder. -/
def start (session : Session P) (now : Instant) :
    Logged (Except SessionError RecorderId × Session P) :=
  match session.current with
  | some _ => { value := (.error .alreadyStarted, session) }
  | none =>
    let recorder := Recorder.new session.configuration.enabledMetrics now
    let words := ", ".intercalate (recorder.valueTypes.map Metric.word)
    { value := (.ok session.recorders.size, session.useRecorder recorder)
      log := [.debug s!"Session started with value types [{words}]"] }

/-- Captures the stack of a thread and records it. The budget is checked before the labels, and both
before the session is looked at. -/
def recordSample {T R : Type} [Inhabited R] (session : Session P) (collector : Collector R)
    (source : FrameSource T R) (request : SessionRequest T) : SessionSampled P T R :=
  let answer := fun result => ⟨result, [], [], collector, session⟩
  match checkMaxFrames request.maxFrames with
  | .error error => answer (.error error)
  | .ok _ =>
    match Label.ofPairs request.texts request.numbers with
    | .error error => answer (.error error)
    | .ok labels =>
      match session.current with
      | none => answer (.ok (.dropped .notStarted))
      | some id =>
        match session.recorderAt? id with
        | none => answer (.ok (.dropped .notStarted))
        | some recorder =>
          let sampled := collector.sample source recorder
            ⟨request.thread, request.maxFrames, request.inGc, request.values, labels⟩
          ⟨sampled.result, sampled.calls, sampled.log, sampled.collector,
            session.setRecorder id sampled.recorder⟩

/-- The configured budget as a caller would give it. -/
def configuredMaxFrames (session : Session P) : Int64 :=
  Int64.ofNat (min session.configuration.maxFrames.toNat 9_223_372_036_854_775_807)

/-- Captures and records with the configured budget in place of the one asked for. -/
def sampleThread {T R : Type} [Inhabited R] (session : Session P) (collector : Collector R)
    (source : FrameSource T R) (request : SessionRequest T) : SessionSampled P T R :=
  session.recordSample collector source
    { request with maxFrames := session.configuredMaxFrames }

/-- Flushes the recorder in use; none if that waits for ever. -/
def flush? (session : Session P) (finish now : Instant) :
    Option (Logged (Except SessionError (Flushed P) × Session P)) :=
  match session.current with
  | none => some { value := (.error .notInitialized, session) }
  | some id => do
    let flushed ← session.withRecorder? id fun recorder => recorder.flush? finish now
    return ⟨(.ok flushed.value.1, flushed.value.2), flushed.log⟩

/-- Flushes the recorder in use a last time and lets go of it; none if that waits for ever. -/
def stop? (session : Session P) (finish now : Instant) :
    Option (Logged (Except SessionError (Flushed P) × Session P)) := do
  let flushed ← session.flush? finish now
  match flushed.value.1 with
  | .error _ => return flushed
  | .ok _ =>
    return ⟨(flushed.value.1, flushed.value.2.release),
      flushed.log ++ [.debug "Session stopped"]⟩

/-- Puts a new recorder in the place of the one in use. -/
def resetAfterFork (session : Session P) (now : Instant) : Logged (Session P) :=
  match session.current with
  | none => { value := session }
  | some _ =>
    { value := session.useRecorder (Recorder.new session.configuration.enabledMetrics now)
      log := [.debug "Session reset after fork"] }

/-- Starts a flush thread for the recorder in use, with the configured interval. -/
def startScheduler (session : Session P) :
    Logged (Except SchedulerError (RecorderId × Scheduler P)) :=
  match session.recorder with
  | .error error => { value := .error (.session error) }
  | .ok id =>
    let started := Scheduler.start (P := P) session.configuration.flushInterval
    ⟨started.value.map fun scheduler => (id, scheduler), started.log⟩

/-- Stops a flush thread that was started for a recorder. -/
def stopScheduler? (session : Session P) (id : RecorderId) (scheduler : Scheduler P)
    (panics : Nat → Bool) (now : Instant) : Option (Logged (Scheduler P × Session P)) :=
  session.withRecorder? id fun recorder => scheduler.stop? panics now recorder

end Session

end StackProfiler
