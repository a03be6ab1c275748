import StackProfiler.Proofs.Capture.Screening
import StackProfiler.Session.Basic
/-!
# Sessions — what is refused has not happened

A session screens what it is asked for before it looks whether it is started, and a
collector screens it again. A capture that is refused for its input or for want of a
start leaves the session, its recorders and the collector as they were, and so a run
of calls goes on as it would have gone without it (`Sampler.calls?_accepted`).
-/

namespace StackProfiler

variable {P T R : Type}

/-! ## Captures into a session -/

namespace SessionRequest

/-- The labels that are asked for, texts first. -/
def labels (request : SessionRequest T) : List Label :=
  Label.paired request.texts request.numbers

/-- What is asked of a collector. -/
def captureRequest (request : SessionRequest T) : CaptureRequest T :=
  ⟨request.thread, request.maxFrames, request.inGc, request.values, request.labels⟩

end SessionRequest

namespace RecordOutcome

/-- **Nothing has been begun**: the input is at fault, or the session not started. -/
def isRefused : Except SampleError RecordOutcome → Bool
  | .error _ | .ok (.dropped .notStarted) => true
  | .ok _ => false

end RecordOutcome

/-- What a recorder turns away has been captured. -/
theorem Collector.isRefused_sample [ProfileStore P] [Inhabited R] (collector : Collector R)
    (source : FrameSource T R) (request : CaptureRequest T) (recorder : Recorder P)
    (h : screen request.maxFrames request.labels = .ok ()) :
    RecordOutcome.isRefused (collector.sample source recorder request).result = false := by
  obtain ⟨recorded, hresult⟩ := collector.sample_of_screen_ok source request recorder h
  rw [hresult]
  cases recorded with
  | ok recorded => rfl
  | error error => cases error; rfl

/-- **A capture into a session that has been screened first**, with the session and
the collector as they were before it. -/
structure SessionSampled.Screens (sampled : SessionSampled P T R) (session : Session P)
    (collector : Collector R) (maxFrames : Int64) (labels : List Label) : Prop where
  screened : Screened maxFrames labels sampled.result
  /-- Behind screening, the sample is dropped if the session is not started. -/
  notStarted_iff : sampled.result = .ok (.dropped .notStarted) ↔
    InBudget maxFrames ∧ Label.Valid labels ∧ session.isStarted = false
  /-- If it is refused, nothing has been asked of the source, logged or changed. -/
  eq_of_isRefused : RecordOutcome.isRefused sampled.result = true →
    sampled = ⟨sampled.result, [], [], collector, session⟩

namespace Session

/-- Putting back a recorder as it is changes nothing. -/
theorem setRecorder_self {session : Session P} {id : RecorderId} {recorder : Recorder P}
    (h : session.recorderAt? id = some recorder) : session.setRecorder id recorder = session := by
  have hrecorders : session.recorders.setIfInBounds id recorder = session.recorders := by
    refine Array.ext_getElem? fun i => ?_
    rw [Array.getElem?_setIfInBounds]
    split
    next heq =>
      subst heq
      split
      · exact h.symm
      · exact (Array.getElem?_eq_none (Nat.le_of_not_lt ‹_›)).symm
    next => rfl
  cases session
  simpa only [setRecorder, mk.injEq, true_and, and_true] using hrecorders

variable [ProfileStore P] [Inhabited R] (session : Session P) (collector : Collector R)
variable (source : FrameSource T R) (request : SessionRequest T)

/-- **What a capture into a session comes to**: it is screened, then it matters whether
there is a recorder, and then it is a capture into that recorder. -/
theorem recordSample_cases :
    (∃ error, screen request.maxFrames request.labels = .error error ∧
      session.recordSample collector source request =
        ⟨.error error, [], [], collector, session⟩) ∨
    (screen request.maxFrames request.labels = .ok () ∧ session.current = none ∧
      session.recordSample collector source request =
        ⟨.ok (.dropped .notStarted), [], [], collector, session⟩) ∨
    (screen request.maxFrames request.labels = .ok () ∧ ∃ id recorder,
      session.current = some id ∧ session.recorderAt? id = some recorder ∧
      let sampled := collector.sample source recorder request.captureRequest
      session.recordSample collector source request =
        ⟨sampled.result, sampled.calls, sampled.log, sampled.collector,
          session.setRecorder id sampled.recorder⟩) := by
  have hpairs := Label.ofPairs_eq request.texts request.numbers
  rw [screen, recordSample]
  cases checkMaxFrames request.maxFrames with
  | error error => exact .inl ⟨error, rfl, rfl⟩
  | ok m =>
  dsimp only
  rw [hpairs, ← SessionRequest.labels]
  cases Label.check request.labels with
  | error error => exact .inl ⟨error, rfl, rfl⟩
  | ok checked =>
  dsimp only [Except.map]
  cases hcurrent : session.current with
  | none => exact .inr (.inl ⟨rfl, rfl, rfl⟩)
  | some id =>
    have hlt := session.current_lt id hcurrent
    have hat : session.recorderAt? id = some session.recorders[id] :=
      Array.getElem?_eq_getElem hlt
    dsimp only
    rw [hat]
    exact .inr (.inr ⟨rfl, id, _, rfl, hat, rfl⟩)

/-- **A session screens what it is asked for** before it looks at its recorder. -/
theorem recordSample_screens :
    (session.recordSample collector source request).Screens session collector request.maxFrames
      request.labels := by
  rcases session.recordSample_cases collector source request with ⟨error, hscreen, heq⟩ |
    ⟨hscreen, hcurrent, heq⟩ | ⟨hscreen, id, recorder, hcurrent, -, heq⟩
  · rw [heq]
    refine ⟨.of_screen (fun _ h => ?_) (fun h => ?_), ?_, fun _ => rfl⟩
    · cases hscreen.symm.trans h
      rfl
    · cases hscreen.symm.trans h
    · rw [← and_assoc, ← screen_eq_ok_iff, hscreen]
      simp
  · rw [heq]
    refine ⟨.of_screen (fun _ h => ?_) (fun _ => ⟨_, rfl⟩), ?_, fun _ => rfl⟩
    · cases hscreen.symm.trans h
    · rw [← and_assoc, ← screen_eq_ok_iff, isStarted, hcurrent]
      exact iff_of_true rfl ⟨hscreen, rfl⟩
  -- the collector screens once more, which finds nothing
  · obtain ⟨recorded, hresult⟩ :=
      collector.sample_of_screen_ok source request.captureRequest recorder hscreen
    have hrefused := collector.isRefused_sample source request.captureRequest recorder hscreen
    rw [heq]
    refine ⟨.of_screen (fun _ h => ?_) (fun _ => ⟨_, hresult⟩), ?_, fun h => ?_⟩
    · cases hscreen.symm.trans h
    · rw [isStarted, hcurrent]
      refine iff_of_false (fun h => ?_) (by simp)
      dsimp only at h
      rw [h] at hrefused
      cases hrefused
    · cases hrefused.symm.trans h

/-- The configured budget takes the place of the one asked for. -/
theorem sampleThread_screens :
    (session.sampleThread collector source request).Screens session collector
      session.configuredMaxFrames request.labels :=
  session.recordSample_screens collector source
    { request with maxFrames := session.configuredMaxFrames }

omit [ProfileStore P] in
/-- It is what is configured, up to the largest number a caller could ask for. -/
theorem toInt_configuredMaxFrames : session.configuredMaxFrames.toInt =
    (min session.configuration.maxFrames.toNat 9_223_372_036_854_775_807 : Nat) :=
  Int64.toInt_ofNat_of_lt (by omega)

end Session

/-! ## Runs -/

/-- A session and a collector that captures into it. -/
structure Sampler (P R : Type) where
  session : Session P
  collector : Collector R

/-- A call, with the source as it is then and what the clock shows. -/
inductive SamplerCall (T R : Type)
  | start (now : Instant)
  | recordSample (source : FrameSource T R) (request : SessionRequest T)
  | sampleThread (source : FrameSource T R) (request : SessionRequest T)
  /-- Captures with the collector alone. -/
  | capture (source : FrameSource T R) (request : CaptureRequest T)
  /-- Captures into a recorder of the session, whether it is in use or not. -/
  | sample (id : RecorderId) (source : FrameSource T R) (request : CaptureRequest T)
  | flush (finish now : Instant)
  /-- Flushes a recorder of the session, whether it is in use or not. -/
  | flushRecorder (id : RecorderId) (finish now : Instant)
  | stop (finish now : Instant)
  | resetAfterFork (now : Instant)

/-- What a call gives back, and for captures what the source was asked. -/
inductive SamplerAnswer (P T R : Type)
  | started (outcome : Except SessionError RecorderId)
  | captured (outcome : Except SampleError Sample) (calls : List (SourceCall T R))
  | sampled (outcome : Except SampleError RecordOutcome) (calls : List (SourceCall T R))
  | flushed (outcome : Except SessionError (Flushed P))
  | reset

/-- **A capture has been refused**, for its input or for want of a start. -/
def SamplerAnswer.isRefused : SamplerAnswer P T R → Bool
  | .captured (.error _) _ => true
  | .sampled outcome _ => RecordOutcome.isRefused outcome
  | _ => false

namespace Sampler

variable [ProfileStore P] [Inhabited R]

/-- One call; none if it waits for ever or there is no such recorder. -/
def call? (sampler : Sampler P R) :
    SamplerCall T R → Option (SamplerAnswer P T R × Sampler P R)
  | .start now =>
    let started := (sampler.session.start now).value
    some (.started started.1, { sampler with session := started.2 })
  | .recordSample source request =>
    let sampled := sampler.session.recordSample sampler.collector source request
    some (.sampled sampled.result sampled.calls, ⟨sampled.session, sampled.collector⟩)
  | .sampleThread source request =>
    let sampled := sampler.session.sampleThread sampler.collector source request
    some (.sampled sampled.result sampled.calls, ⟨sampled.session, sampled.collector⟩)
  | .capture source request =>
    let captured := sampler.collector.capture source request
    some (.captured captured.result captured.calls,
      { sampler with collector := captured.collector })
  | .sample id source request =>
    (sampler.session.recorderAt? id).map fun recorder =>
      let sampled := sampler.collector.sample source recorder request
      (.sampled sampled.result sampled.calls,
        ⟨sampler.session.setRecorder id sampled.recorder, sampled.collector⟩)
  | .flush finish now =>
    (sampler.session.flush? finish now).map fun flushed =>
      (.flushed flushed.value.1, { sampler with session := flushed.value.2 })
  | .flushRecorder id finish now =>
    (sampler.session.withRecorder? id fun recorder => recorder.flush? finish now).map fun flushed =>
      (.flushed (.ok flushed.value.1), { sampler with session := flushed.value.2 })
  | .stop finish now =>
    (sampler.session.stop? finish now).map fun flushed =>
      (.flushed flushed.value.1, { sampler with session := flushed.value.2 })
  | .resetAfterFork now =>
    some (.reset, { sampler with session := (sampler.session.resetAfterFork now).value })

/-- Calls one after the other, with the answer to each. -/
def calls? (sampler : Sampler P R) :
    List (SamplerCall T R) → Option (List (SamplerAnswer P T R) × Sampler P R)
  | [] => some ([], sampler)
  | call :: calls => do
    let answered ← sampler.call? call
    let rest ← answered.2.calls? calls
    return (answered.1 :: rest.1, rest.2)

/-- The calls of a run without those that are refused in it. -/
def accepted (sampler : Sampler P R) : List (SamplerCall T R) → List (SamplerCall T R)
  | [] => []
  | call :: calls =>
    match sampler.call? call with
    | none => call :: calls
    | some (answer, sampler') =>
      if answer.isRefused then sampler'.accepted calls else call :: sampler'.accepted calls

/-- **A refused call changes nothing.** -/
theorem eq_of_isRefused {sampler sampler' : Sampler P R} {call : SamplerCall T R}
    {answer : SamplerAnswer P T R} (hcall : sampler.call? call = some (answer, sampler'))
    (hrefused : answer.isRefused = true) : sampler' = sampler := by
  cases call with
  | recordSample source request =>
    cases hcall
    rw [(sampler.session.recordSample_screens sampler.collector source
      request).eq_of_isRefused hrefused]
  | sampleThread source request =>
    cases hcall
    rw [(sampler.session.sampleThread_screens sampler.collector source
      request).eq_of_isRefused hrefused]
  | capture source request =>
    cases hcall
    cases hresult : (sampler.collector.capture source request).result with
    | error error => rw [sampler.collector.capture_eq_of_error source request hresult]
    | ok sample => simp [hresult, SamplerAnswer.isRefused] at hrefused
  | sample id source request =>
    obtain ⟨recorder, hat, heq⟩ := Option.map_eq_some_iff.1 hcall
    cases heq
    cases hscreen : screen request.maxFrames request.labels with
    | error error =>
      rw [sampler.collector.sample_of_screen_error source request recorder hscreen,
        Session.setRecorder_self hat]
    | ok checked =>
      cases (sampler.collector.isRefused_sample source request recorder hscreen).symm.trans hrefused
  | start now | resetAfterFork now =>
    cases hcall
    cases hrefused
  | flush finish now | flushRecorder id finish now | stop finish now =>
    obtain ⟨flushed, -, heq⟩ := Option.map_eq_some_iff.1 hcall
    cases heq
    cases hrefused

/-- **A run without its refused calls** gives the other answers and comes to the same
session and collector, or it waits for ever where the run does. -/
theorem calls?_accepted (sampler : Sampler P R) (calls : List (SamplerCall T R)) :
    sampler.calls? (sampler.accepted calls) =
      (sampler.calls? calls).map fun run => (run.1.filter (!·.isRefused), run.2) := by
  induction calls generalizing sampler with
  | nil => rfl
  | cons call calls ih =>
    rw [accepted, calls?]
    cases hcall : sampler.call? call with
    | none => simp [calls?, hcall]
    | some answered =>
    obtain ⟨answer, sampler'⟩ := answered
    dsimp only [bind, Option.bind_some]
    split
    next hrefused =>
      -- the refused call is left out, so the rest has to be the same from where it was made
      obtain rfl := eq_of_isRefused hcall hrefused
      rw [ih]
      cases sampler'.calls? calls <;> simp [hrefused]
    next haccepted =>
      simp only [calls?, hcall, ih, bind, Option.bind_some]
      cases sampler'.calls? calls <;> simp [haccepted]

/-- **A sampler that screens before anything else.** -/
structure ScreensFirst (T : Type) (sampler : Sampler P R) : Prop where
  recordSample : ∀ (source : FrameSource T R) (request : SessionRequest T),
    (sampler.session.recordSample sampler.collector source request).Screens sampler.session
      sampler.collector request.maxFrames request.labels
  /-- The configured budget is screened in place of the one asked for. -/
  sampleThread : ∀ (source : FrameSource T R) (request : SessionRequest T),
    (sampler.session.sampleThread sampler.collector source request).Screens sampler.session
      sampler.collector sampler.session.configuredMaxFrames request.labels
  configuredMaxFrames : sampler.session.configuredMaxFrames.toInt =
    (min sampler.session.configuration.maxFrames.toNat 9_223_372_036_854_775_807 : Nat)
  /-- The collector alone screens in the same way. -/
  capture : ∀ (source : FrameSource T R) (request : CaptureRequest T),
    Screened request.maxFrames request.labels (sampler.collector.capture source request).result
  capture_eq : ∀ (source : FrameSource T R) (request : CaptureRequest T) error,
    (sampler.collector.capture source request).result = .error error →
      sampler.collector.capture source request = ⟨.error error, [], [], sampler.collector⟩
  /-- And so it does for a recorder in any state. -/
  sample : ∀ (recorder : Recorder P) (source : FrameSource T R) (request : CaptureRequest T),
    Screened request.maxFrames request.labels
      (sampler.collector.sample source recorder request).result
  sample_eq : ∀ (recorder : Recorder P) (source : FrameSource T R) (request : CaptureRequest T) error,
    (sampler.collector.sample source recorder request).result = .error error →
      sampler.collector.sample source recorder request =
        ⟨.error error, [], [], sampler.collector, recorder⟩
  /-- Behind the check of a budget there are always slots. -/
  slots : ∀ maxFrames m, checkMaxFrames maxFrames = .ok m →
    (∃ buffer : SamplingBuffer R, SamplingBuffer.new m = .ok buffer) ∧
      ∃ buffer, sampler.collector.bufferFor m = .ok buffer
  /-- A run is what it would be without the calls that are refused in it. -/
  accepted : ∀ calls : List (SamplerCall T R), sampler.calls? (sampler.accepted calls) =
    (sampler.calls? calls).map fun run => (run.1.filter (!·.isRefused), run.2)

/-- **What is asked for is screened before anything else happens**, whatever the
state of the session, its recorders and the collector, and whatever the source. -/
theorem screensFirst (sampler : Sampler P R) : sampler.ScreensFirst T where
  recordSample := sampler.session.recordSample_screens sampler.collector
  sampleThread := sampler.session.sampleThread_screens sampler.collector
  configuredMaxFrames := sampler.session.toInt_configuredMaxFrames
  capture := sampler.collector.capture_screened
  capture_eq := fun source request _ => sampler.collector.capture_eq_of_error source request
  sample := fun recorder source request =>
    sampler.collector.sample_screened source request recorder
  sample_eq := fun recorder source request _ =>
    sampler.collector.sample_eq_of_error source request recorder
  slots := fun _ _ hm =>
    have hle := (Collector.checkMaxFrames_eq_ok_iff.1 hm).2
    ⟨SamplingBuffer.new_isOk hle, sampler.collector.bufferFor_isOk hle⟩
  accepted := sampler.calls?_accepted

end Sampler

end StackProfiler
