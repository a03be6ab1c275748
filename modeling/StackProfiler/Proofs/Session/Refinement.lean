import StackProfiler.Proofs.Profile.Aggregation
import StackProfiler.Proofs.Session.Lifecycle
import StackProfiler.Proofs.Session.Refusals
/-!
# Sessions — they follow the lifecycle

A session keeps the recorders it has made and the number of the one in use. It
follows the lifecycle if that recorder stands for the period of the started state,
and if none is in use in the other state (`Session.Follows`). Each call is answered
as the lifecycle answers it and is followed again, so whole runs are.
-/

namespace StackProfiler

/-! ## Valid input -/

namespace Sampling

/-- **Valid input is captured**, and no other input is. -/
theorem exists_sample_eq_ok_iff (sampling : Sampling) :
    (∃ sample, sampling.sample = .ok sample) ↔ sampling.Valid :=
  (sampling.collector.capture_screened sampling.source sampling.captureRequest).isOk_iff.trans
    ⟨fun h => ⟨h.1.nonneg, h.1.le_limit, h.2⟩, fun h => ⟨⟨h.budget_nonneg, h.budget_le⟩, h.labels⟩⟩

end Sampling

/-! ## Answers -/

/-- What a call on a session gives back. -/
inductive SessionAnswer
  | granted (outcome : Except SessionError Unit)
  | sampled (outcome : Except SampleError RecordOutcome)
  | flushed (flushed : Except SessionError (Flushed Profile))
  | reset

namespace SessionAnswer

/-- The call has been refused. -/
def Refused : SessionAnswer → Prop
  | .granted (.error _) | .sampled (.error _) | .flushed (.error _) => True
  | _ => False

end SessionAnswer

namespace LifecycleAnswer

/-- **How a session gives an answer**: captures that are handed out come as a new
profile to which they have been added in order. -/
def shown (valueTypes : List Metric) : LifecycleAnswer → SessionAnswer
  | .granted outcome => .granted outcome
  | .sampled (.error error) => .sampled (.error error)
  | .sampled (.ok (some _)) => .sampled (.ok .recorded)
  | .sampled (.ok none) => .sampled (.ok (.dropped .notStarted))
  | .flushed (.error error) => .flushed (.error error)
  | .flushed (.ok batch) =>
    .flushed (.ok ⟨batch.start, batch.finish, batch.nextStart,
      batch.profile.foldl Profile.add (Profile.new valueTypes batch.start)⟩)
  | .reset _ => .reset

end LifecycleAnswer

/-! ## Calls -/

namespace Session

variable {P : Type}

/-- The recorder in use, if there is one. -/
def recorder? (session : Session P) : Option (Recorder P) :=
  session.current.bind session.recorderAt?

theorem recorder?_eq_some_iff {session : Session P} {recorder : Recorder P} :
    session.recorder? = some recorder ↔
      ∃ id, session.current = some id ∧ session.recorderAt? id = some recorder := by
  rw [recorder?, Option.bind_eq_some_iff]

@[simp]
theorem recorder?_useRecorder (session : Session P) (recorder : Recorder P) :
    (session.useRecorder recorder).recorder? = some recorder := by
  simp [recorder?, useRecorder, recorderAt?]

theorem recorder?_setRecorder {session : Session P} {id : RecorderId}
    (hcurrent : session.current = some id) (recorder : Recorder P) :
    (session.setRecorder id recorder).recorder? = some recorder := by
  have hlt := session.current_lt id hcurrent
  simp [recorder?, setRecorder, recorderAt?, hcurrent, hlt]

/-- One call; none if it waits for ever. -/
def call? (session : Session Profile) : SessionCall → Option (SessionAnswer × Session Profile)
  | .start now =>
    let started := (session.start now).value
    some (.granted (started.1.map fun _ => ()), started.2)
  | .recorder => some (.granted (session.recorder.map fun _ => ()), session)
  | .recordSample sampling =>
    let sampled := session.recordSample sampling.collector sampling.source sampling.request
    some (.sampled sampled.result, sampled.session)
  | .sampleThread sampling =>
    let sampled := session.sampleThread sampling.collector sampling.source sampling.request
    some (.sampled sampled.result, sampled.session)
  | .flush finish now =>
    ((session.flush? finish now).map Logged.value).map fun flushed =>
      (.flushed flushed.1, flushed.2)
  | .stop finish now =>
    ((session.stop? finish now).map Logged.value).map fun flushed =>
      (.flushed flushed.1, flushed.2)
  | .resetAfterFork now => some (.reset, (session.resetAfterFork now).value)

/-- Calls one after the other, with the answer to each. -/
def calls? (session : Session Profile) :
    List SessionCall → Option (List SessionAnswer × Session Profile)
  | [] => some ([], session)
  | call :: calls => do
    let answered ← session.call? call
    let rest ← answered.2.calls? calls
    return (answered.1 :: rest.1, rest.2)

/-- **A session in a state of the lifecycle.** -/
inductive Follows (session : Session Profile) (configuration : Configuration) : Lifecycle → Prop
  | notStarted : session.configuration = configuration → session.current = none →
      session.Follows configuration .notStarted
  | started {period : Period} {recorder : Recorder Profile} :
      session.configuration = configuration → session.recorder? = some recorder →
      recorder.Represents configuration.enabledMetrics period →
      session.Follows configuration (.started period)

theorem follows_new (configuration : Configuration) :
    (new configuration : Session Profile).Follows configuration .notStarted :=
  .notStarted rfl rfl

/-- A flush of the recorder in use is a flush of the session. -/
theorem flush?_map_value {session : Session Profile} {id : RecorderId}
    {recorder recorder' : Recorder Profile} {flushed : Flushed Profile} {finish now : Instant}
    (hcurrent : session.current = some id) (hat : session.recorderAt? id = some recorder)
    (hflush : (recorder.flush? finish now).map Logged.value = some (flushed, recorder')) :
    (session.flush? finish now).map Logged.value =
      some (.ok flushed, session.setRecorder id recorder') := by
  obtain ⟨logged, hlogged, hvalue⟩ := Option.map_eq_some_iff.1 hflush
  simp [flush?, withRecorder?, hcurrent, hat, hlogged, hvalue]

/-- A stop is a flush after which the recorder is let go of. -/
theorem stop?_map_value {session session' : Session Profile} {flushed : Flushed Profile}
    {finish now : Instant}
    (hflush : (session.flush? finish now).map Logged.value = some (.ok flushed, session')) :
    (session.stop? finish now).map Logged.value = some (.ok flushed, session'.release) := by
  obtain ⟨⟨value, log⟩, hlogged, rfl⟩ := Option.map_eq_some_iff.1 hflush
  simp [stop?, hlogged]

/-- **What a capture does**: faults in the input come first, and then it matters
whether there is a recorder. -/
theorem call?_recordSample (session : Session Profile) (sampling : Sampling) :
    session.call? (.recordSample sampling) = some (match sampling.sample with
      | .error error => (.sampled (.error error), session)
      | .ok sample =>
        match session.current, session.recorder? with
        | some id, some recorder =>
          let recorded := (recorder.record sample).value
          (.sampled (.ok (.ofRecorded recorded.1)), session.setRecorder id recorded.2)
        | _, _ => (.sampled (.ok (.dropped .notStarted)), session)) := by
  rcases session.recordSample_cases sampling.collector sampling.source sampling.request with
    ⟨error, hscreen, heq⟩ | ⟨hscreen, hcurrent, heq⟩ | ⟨hscreen, id, recorder, hcurrent, hat, heq⟩
  · have hsample : sampling.sample = .error error := congrArg Captured.result <|
      sampling.collector.capture_of_screen_error sampling.source sampling.captureRequest hscreen
    rw [hsample, call?, heq]
  · obtain ⟨frames, hcapture⟩ :=
      sampling.collector.capture_of_screen_ok sampling.source sampling.captureRequest hscreen
    have hsample : sampling.sample = .ok _ := hcapture
    rw [hsample, call?, heq, hcurrent]
  · obtain ⟨frames, hcapture⟩ :=
      sampling.collector.capture_of_screen_ok sampling.source sampling.captureRequest hscreen
    have hsample : sampling.sample = .ok _ := hcapture
    have hcapture' : (sampling.collector.capture sampling.source
        sampling.request.captureRequest).result = .ok _ := hcapture
    rw [hsample, call?, heq, recorder?_eq_some_iff.2 ⟨id, hcurrent, hat⟩, hcurrent]
    simp only [Collector.sample, hcapture']

namespace Follows

variable {session : Session Profile} {configuration : Configuration} {state : Lifecycle}

/-- The session is started with a recorder that stands for the period. -/
theorem exists_current {period : Period} (h : session.Follows configuration (.started period)) :
    ∃ id recorder, session.current = some id ∧ session.recorderAt? id = some recorder ∧
      recorder.Represents configuration.enabledMetrics period := by
  cases h with
  | started _ hrecorder hrepresents =>
    obtain ⟨id, hcurrent, hat⟩ := recorder?_eq_some_iff.1 hrecorder
    exact ⟨id, _, hcurrent, hat, hrepresents⟩

theorem configuration_eq (h : session.Follows configuration state) :
    session.configuration = configuration := by
  cases h <;> assumption

/-- A session that is not started has no recorder in use. -/
theorem current_eq_none (h : session.Follows configuration .notStarted) :
    session.current = none := by
  cases h with
  | notStarted _ hcurrent => exact hcurrent

/-- A session with a later state of the recorder in use. -/
theorem setRecorder {period period' : Period} (h : session.Follows configuration (.started period))
    {id : RecorderId} (hcurrent : session.current = some id) {recorder : Recorder Profile}
    (hrepresents : recorder.Represents configuration.enabledMetrics period') :
    (session.setRecorder id recorder).Follows configuration (.started period') :=
  .started h.configuration_eq (recorder?_setRecorder hcurrent recorder) hrepresents

/-- A session that takes a new recorder into use. -/
theorem useRecorder (h : session.Follows configuration state) (now : Instant) :
    (session.useRecorder (Recorder.new session.configuration.enabledMetrics now)).Follows
      configuration (.started ⟨now, []⟩) := by
  refine .started h.configuration_eq (recorder?_useRecorder ..) ?_
  rw [h.configuration_eq]
  exact Recorder.represents_new ..

/-- A session that lets go of its recorder. -/
theorem release (h : session.Follows configuration state) :
    session.release.Follows configuration .notStarted :=
  .notStarted h.configuration_eq rfl

/-- The budget is the configured one. -/
theorem configuredMaxFrames_eq (h : session.Follows configuration state) :
    session.configuredMaxFrames = Lifecycle.budget configuration := by
  rw [configuredMaxFrames, h.configuration_eq, Lifecycle.budget]

/-- **A capture** is recorded while the session is started. -/
theorem recordSample (h : session.Follows configuration state) (sampling : Sampling) :
    let answered := state.record sampling.sample
    ∃ session', session.call? (.recordSample sampling) =
        some (answered.1.shown configuration.enabledMetrics.valueTypes, session') ∧
      session'.Follows configuration answered.2 := by
  rw [call?_recordSample]
  cases sampling.sample with
  | error error => exact ⟨session, rfl, h⟩
  | ok sample =>
  cases state with
  | notStarted =>
    refine ⟨session, ?_, h⟩
    rw [h.current_eq_none]
    rfl
  | started period =>
    obtain ⟨id, recorder, hcurrent, hat, hrepresents⟩ := h.exists_current
    refine ⟨session.setRecorder id (recorder.added sample), ?_,
      h.setRecorder hcurrent (hrepresents.added sample)⟩
    rw [recorder?_eq_some_iff.2 ⟨id, hcurrent, hat⟩, hcurrent]
    dsimp only
    rw [hrepresents.settled.record_eq sample]
    rfl

/-- A started session is flushed without waiting: what its recorder stands for is
handed out, and the next period begins. -/
theorem flush {period : Period} (h : session.Follows configuration (.started period))
    (finish now : Instant) :
    ∃ session', (session.flush? finish now).map Logged.value =
        some (.ok ⟨period.start, finish, now, Profile.gathered
          configuration.enabledMetrics.valueTypes period.start period.samples⟩, session') ∧
      session'.Follows configuration (.started ⟨now, []⟩) := by
  obtain ⟨id, recorder, hcurrent, hat, hrepresents⟩ := h.exists_current
  refine ⟨_, flush?_map_value hcurrent hat ?_, h.setRecorder hcurrent (hrepresents.flipped now)⟩
  rw [hrepresents.settled.flush?_eq finish now, hrepresents.taken_eq finish now]

/-- **One call**: the session answers as the lifecycle does and follows it. -/
theorem call (h : session.Follows configuration state) (call : SessionCall) :
    let answered := state.call configuration call
    ∃ session', session.call? call =
        some (answered.1.shown configuration.enabledMetrics.valueTypes, session') ∧
      session'.Follows configuration answered.2 := by
  cases call with
  | recordSample sampling => exact h.recordSample sampling
  | sampleThread sampling =>
    have hcall : session.call? (.sampleThread sampling) =
        session.call? (.recordSample (sampling.withBudget session.configuredMaxFrames)) := rfl
    rw [hcall, h.configuredMaxFrames_eq]
    exact h.recordSample _
  | start now =>
    cases state with
    | notStarted =>
      refine ⟨_, ?_, h.useRecorder now⟩
      simp only [call?, start, h.current_eq_none]
      rfl
    | started period =>
      obtain ⟨id, _, hcurrent, -⟩ := h.exists_current
      refine ⟨session, ?_, h⟩
      simp only [call?, start, hcurrent]
      rfl
  | recorder =>
    cases state with
    | notStarted =>
      refine ⟨session, ?_, h⟩
      simp only [call?, recorder, h.current_eq_none]
      rfl
    | started period =>
      obtain ⟨id, _, hcurrent, -⟩ := h.exists_current
      refine ⟨session, ?_, h⟩
      simp only [call?, recorder, hcurrent]
      rfl
  | flush finish now =>
    cases state with
    | notStarted =>
      refine ⟨session, ?_, h⟩
      simp only [call?, flush?, h.current_eq_none]
      rfl
    | started period =>
      obtain ⟨session', hflush, h'⟩ := h.flush finish now
      refine ⟨session', ?_, h'⟩
      rw [call?, hflush]
      rfl
  | stop finish now =>
    cases state with
    | notStarted =>
      refine ⟨session, ?_, h⟩
      simp only [call?, stop?, flush?, h.current_eq_none]
      rfl
    | started period =>
      obtain ⟨session', hflush, h'⟩ := h.flush finish now
      refine ⟨session'.release, ?_, h'.release⟩
      rw [call?, stop?_map_value hflush]
      rfl
  | resetAfterFork now =>
    cases state with
    | notStarted =>
      refine ⟨session, ?_, h⟩
      simp only [call?, resetAfterFork, h.current_eq_none]
      rfl
    | started period =>
      obtain ⟨id, _, hcurrent, -⟩ := h.exists_current
      refine ⟨_, ?_, h.useRecorder now⟩
      simp only [call?, resetAfterFork, hcurrent]
      rfl

/-- Calls one after the other. -/
theorem calls (h : session.Follows configuration state) (calls : List SessionCall) :
    let answered := state.calls configuration calls
    ∃ session', session.calls? calls =
        some (answered.1.map (·.shown configuration.enabledMetrics.valueTypes), session') ∧
      session'.Follows configuration answered.2 := by
  induction calls generalizing session state with
  | nil => exact ⟨session, rfl, h⟩
  | cons call calls ih =>
    obtain ⟨session₁, hcall, h₁⟩ := h.call call
    obtain ⟨session₂, hcalls, h₂⟩ := ih h₁
    refine ⟨session₂, ?_, h₂⟩
    rw [calls?, hcall, Option.bind_eq_bind, Option.bind_some, hcalls]
    rfl

end Follows

/-! ## Refusals and new beginnings -/

/-- A refused flush leaves the session as it is. -/
theorem eq_of_flush?_error {session : Session Profile} {finish now : Instant}
    {flushed : Logged (Except SessionError (Flushed Profile) × Session Profile)}
    {error : SessionError} (hflush : session.flush? finish now = some flushed)
    (herror : flushed.value.1 = .error error) : flushed.value.2 = session := by
  unfold flush? at hflush
  split at hflush
  · cases hflush
    rfl
  · obtain ⟨taken, -, htaken⟩ := Option.bind_eq_some_iff.1 hflush
    cases htaken
    cases herror

/-- And so does a refused stop. -/
theorem eq_of_stop?_error {session : Session Profile} {finish now : Instant}
    {flushed : Logged (Except SessionError (Flushed Profile) × Session Profile)}
    {error : SessionError} (hstop : session.stop? finish now = some flushed)
    (herror : flushed.value.1 = .error error) : flushed.value.2 = session := by
  obtain ⟨taken, hflush, htaken⟩ := Option.bind_eq_some_iff.1 hstop
  split at htaken
  next herror' =>
    cases htaken
    exact eq_of_flush?_error hflush herror'
  next hok =>
    cases htaken
    exact absurd (hok.symm.trans herror) (by simp)

/-- **A refused call changes nothing.** -/
theorem eq_of_refused {session session' : Session Profile} {call : SessionCall}
    {answer : SessionAnswer} (hcall : session.call? call = some (answer, session'))
    (hrefused : answer.Refused) : session' = session := by
  have hrecord : ∀ sampling : Sampling,
      session.call? (.recordSample sampling) = some (answer, session') → session' = session := by
    intro sampling hcall
    rw [call?_recordSample] at hcall
    repeat' split at hcall
    · cases hcall
      rfl
    · cases hcall
      exact hrefused.elim
    · cases hcall
      rfl
  cases call with
  | recordSample sampling => exact hrecord sampling hcall
  | sampleThread sampling => exact hrecord (sampling.withBudget session.configuredMaxFrames) hcall
  | recorder =>
    cases hcall
    rfl
  | start now =>
    rw [call?, start] at hcall
    split at hcall
    · cases hcall
      rfl
    · cases hcall
      exact hrefused.elim
  | flush finish now =>
    simp only [call?, Option.map_map, Option.map_eq_some_iff] at hcall
    obtain ⟨flushed, hflushed, heq⟩ := hcall
    cases heq
    cases herror : flushed.value.1 with
    | error error => exact eq_of_flush?_error hflushed herror
    | ok taken => simp [herror, SessionAnswer.Refused] at hrefused
  | stop finish now =>
    simp only [call?, Option.map_map, Option.map_eq_some_iff] at hcall
    obtain ⟨flushed, hflushed, heq⟩ := hcall
    cases heq
    cases herror : flushed.value.1 with
    | error error => exact eq_of_stop?_error hflushed herror
    | ok taken => simp [herror, SessionAnswer.Refused] at hrefused
  | resetAfterFork now =>
    cases hcall
    exact hrefused.elim

/-- **A session that begins afresh**: its recorder is empty, has slot one active
and has dropped nothing. -/
def BeginsAfresh (session : Session Profile) (configuration : Configuration) (now : Instant) :
    Prop :=
  ∃ recorder, session.recorder? = some recorder ∧ recorder.active = .one ∧ recorder.dropped = 0 ∧
    recorder.one.store = Profile.new configuration.enabledMetrics.valueTypes now ∧
    recorder.two.store = Profile.new configuration.enabledMetrics.valueTypes now

theorem beginsAfresh_useRecorder (session : Session Profile) (now : Instant) :
    (session.useRecorder (Recorder.new session.configuration.enabledMetrics now)).BeginsAfresh
      session.configuration now :=
  ⟨_, recorder?_useRecorder .., rfl, rfl, rfl, rfl⟩

/-! ## Whole runs -/

/-- **A session after a run**, with what the lifecycle has answered in it and come
to. -/
structure Conforms (session : Session Profile) (configuration : Configuration)
    (run : List LifecycleAnswer × Lifecycle) : Prop where
  follows : session.Follows configuration run.2
  /-- Refused calls change nothing. -/
  eq_of_refused : ∀ call answer session', session.call? call = some (answer, session') →
    answer.Refused → session' = session
  /-- Valid captures are recorded while the session is started, and else dropped. -/
  recordSample : ∀ sampling : Sampling, sampling.Valid → ∃ session',
    session.call? (.recordSample sampling) = some (.sampled (.ok
      (if session.isStarted then .recorded else .dropped .notStarted)), session')
  sampleThread : ∀ sampling : Sampling,
    (sampling.withBudget (Lifecycle.budget configuration)).Valid → ∃ session',
    session.call? (.sampleThread sampling) = some (.sampled (.ok
      (if session.isStarted then .recorded else .dropped .notStarted)), session')
  start_afresh : ∀ now, session.isStarted = false →
    (session.start now).value.2.BeginsAfresh configuration now
  fork_afresh : ∀ now, session.isStarted = true →
    (session.resetAfterFork now).value.BeginsAfresh configuration now
  /-- Every recorded capture is handed out or thrown away once, in order, or is
  still held. -/
  recorded_eq : run.1.flatMap LifecycleAnswer.recorded =
    run.1.flatMap LifecycleAnswer.released ++ run.2.pending
  /-- What is handed out is the aggregation of its captures. -/
  aggregates : ∀ batch : Flushed (List Sample), .flushed (.ok batch) ∈ run.1 →
    Numberable batch.profile → (Profile.gathered configuration.enabledMetrics.valueTypes
      batch.start batch.profile).Aggregates batch.profile

namespace Follows

variable {session : Session Profile} {configuration : Configuration} {state : Lifecycle}

theorem isStarted_eq (h : session.Follows configuration state) :
    session.isStarted = match state with
      | .notStarted => false
      | .started _ => true := by
  cases state with
  | notStarted => rw [isStarted, h.current_eq_none]; rfl
  | started period =>
    obtain ⟨id, _, hcurrent, -⟩ := h.exists_current
    rw [isStarted, hcurrent]
    rfl

/-- Valid captures are recorded by a started session and dropped by another. -/
theorem recordSample_of_valid (h : session.Follows configuration state) {sampling : Sampling}
    (hvalid : sampling.Valid) : ∃ session', session.call? (.recordSample sampling) =
      some (.sampled (.ok (if session.isStarted then .recorded else .dropped .notStarted)),
        session') := by
  obtain ⟨sample, hsample⟩ := sampling.exists_sample_eq_ok_iff.2 hvalid
  obtain ⟨session', hcall, -⟩ := h.recordSample sampling
  refine ⟨session', hcall.trans ?_⟩
  rw [hsample, h.isStarted_eq]
  cases state <;> rfl

theorem sampleThread_of_valid (h : session.Follows configuration state) {sampling : Sampling}
    (hvalid : (sampling.withBudget (Lifecycle.budget configuration)).Valid) :
    ∃ session', session.call? (.sampleThread sampling) =
      some (.sampled (.ok (if session.isStarted then .recorded else .dropped .notStarted)),
        session') := by
  rw [← h.configuredMaxFrames_eq] at hvalid
  exact h.recordSample_of_valid hvalid

/-- A start begins afresh. -/
theorem start_afresh (h : session.Follows configuration state)
    (hstopped : session.isStarted = false) (now : Instant) :
    (session.start now).value.2.BeginsAfresh configuration now := by
  have hcurrent : session.current = none :=
    Option.isNone_iff_eq_none.1 (Option.isSome_eq_false_iff.1 hstopped)
  rw [start, hcurrent]
  exact h.configuration_eq ▸ session.beginsAfresh_useRecorder now

/-- And so does a started session after a fork. -/
theorem fork_afresh (h : session.Follows configuration state) (hstarted : session.isStarted = true)
    (now : Instant) : (session.resetAfterFork now).value.BeginsAfresh configuration now := by
  obtain ⟨id, hcurrent⟩ := Option.isSome_iff_exists.1 hstarted
  rw [resetAfterFork, hcurrent]
  exact h.configuration_eq ▸ session.beginsAfresh_useRecorder now

end Follows

/-- **A session is its lifecycle.** Whatever is called on a new session, one call
after the other, no call waits for ever, each is answered as the lifecycle answers
it, and the session conforms to what the lifecycle has come to. -/
theorem calls?_conforms (configuration : Configuration) (calls : List SessionCall) :
    let run := Lifecycle.notStarted.calls configuration calls
    ∃ session, (new configuration).calls? calls =
        some (run.1.map (·.shown configuration.enabledMetrics.valueTypes), session) ∧
      session.Conforms configuration run := by
  obtain ⟨session, hcalls, h⟩ := (follows_new configuration).calls calls
  exact ⟨session, hcalls, {
    follows := h
    eq_of_refused := fun _ _ _ => Session.eq_of_refused
    recordSample := fun _ => h.recordSample_of_valid
    sampleThread := fun _ => h.sampleThread_of_valid
    start_afresh := fun now hstopped => h.start_afresh hstopped now
    fork_afresh := fun now hstarted => h.fork_afresh hstarted now
    recorded_eq := Lifecycle.recorded_eq_released_append configuration .notStarted calls
    aggregates := fun batch _ room => (Profile.gathers_gathered ..).aggregates room }⟩

end Session

end StackProfiler
