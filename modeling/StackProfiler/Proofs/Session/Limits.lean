import StackProfiler.Profile.Basic
import StackProfiler.Proofs.Configuration.Rendering
import StackProfiler.Proofs.Session.Refusals
/-!
# Sessions — the limits that are enforced

The limits of a configuration are checked by `Configuration.validate`, and again where
they are used: the frame budget by every capture, the interval by the start of a flush
thread. The checks look at numbers of different types, and they agree (`Session.Enforces`).
A configuration stays what it is through every run of a session, so what has been validated
once is never refused later.
-/

namespace StackProfiler

variable {P T R : Type}

/-! ## Budgets -/

/-- A capture that is screened is refused for no budget but the one that was asked for. -/
theorem Screened.eq_error_invalidMaxFrames_iff {α : Type} {maxFrames m : Int64}
    {labels : List Label} {result : Except SampleError α}
    (h : Screened maxFrames labels result) :
    result = .error (.invalidMaxFrames m) ↔ m = maxFrames ∧ ¬ InBudget maxFrames := by
  by_cases hin : InBudget maxFrames
  · rw [h.firstFault_iff hin]
    exact iff_of_false (fun hfault => hfault.ne_invalidMaxFrames m rfl) fun hout => hout.2 hin
  · rw [h.invalidMaxFrames_iff.2 hin]
    simp [hin, eq_comm]

namespace Session

/-- **The configured budget is in range as a caller's exactly if it is as configured.** A budget
that only just fits is past the limit in both readings. -/
theorem inBudget_configuredMaxFrames_iff (session : Session P) :
    InBudget session.configuredMaxFrames ↔
      session.configuration.maxFrames.toNat ≤ maxFramesLimit := by
  have htoInt := session.toInt_configuredMaxFrames
  have hlimit : maxFramesLimit = 10000 := rfl
  constructor
  · rintro ⟨-, hle⟩
    omega
  · exact fun hle => ⟨by omega, by omega⟩

variable [ProfileStore P] [Inhabited R] (session : Session P) (collector : Collector R)
variable (source : FrameSource T R) (request : SessionRequest T)

/-- A capture with the configured budget is refused for it exactly if that is past the limit. -/
theorem sampleThread_eq_invalidMaxFrames_iff {m : Int64} :
    (session.sampleThread collector source request).result = .error (.invalidMaxFrames m) ↔
      m = session.configuredMaxFrames ∧
        maxFramesLimit < session.configuration.maxFrames.toNat := by
  rw [(session.sampleThread_screens collector source
    request).screened.eq_error_invalidMaxFrames_iff, inBudget_configuredMaxFrames_iff, Nat.not_le]

/-! ## Intervals -/

omit [ProfileStore P] in
/-- The flush thread of a started session. -/
theorem startScheduler_of_isStarted (hstarted : session.isStarted = true) :
    (session.configuration.flushInterval < .ofMillis 1 ∧
      session.startScheduler.value =
        .error (.intervalTooShort session.configuration.flushInterval)) ∨
    (¬ session.configuration.flushInterval < .ofMillis 1 ∧
      ∃ started, session.startScheduler.value = .ok started) := by
  obtain ⟨id, hcurrent⟩ := Option.isSome_iff_exists.1 hstarted
  rw [startScheduler, recorder, hcurrent]
  dsimp only
  rw [Scheduler.start, minFlushInterval]
  split
  · next hshort => exact .inl ⟨hshort, rfl⟩
  · next hlong => exact .inr ⟨hlong, _, rfl⟩

omit [ProfileStore P] in
/-- It is refused for its interval exactly if that is below a millisecond. -/
theorem startScheduler_eq_intervalTooShort_iff (hstarted : session.isStarted = true)
    {interval : Duration} :
    session.startScheduler.value = .error (.intervalTooShort interval) ↔
      session.configuration.flushInterval < .ofMillis 1 ∧
        interval = session.configuration.flushInterval := by
  rcases session.startScheduler_of_isStarted hstarted with ⟨hshort, heq⟩ |
    ⟨hlong, started, heq⟩
  · simp [heq, hshort, eq_comm]
  · simp [heq, hlong]

/-! ## Sessions of a configuration -/

/-- **A session enforces a configuration as it is validated.** -/
structure Enforces (session : Session P) (configuration : Configuration) : Prop where
  /-- Whatever is captured, and with whichever collector: the capture is refused for the
  configured budget exactly if validation is. -/
  invalidMaxFrames_iff : ∀ {T R : Type} [Inhabited R] (collector : Collector R)
    (source : FrameSource T R) (request : SessionRequest T),
    (∃ m, (session.sampleThread collector source request).result =
        .error (.invalidMaxFrames m)) ↔
      ∃ n, configuration.validate = .error (.invalidMaxFrames n)
  /-- It names the configured budget, up to the largest number a caller could ask for. -/
  invalidMaxFrames_toInt : ∀ {T R : Type} [Inhabited R] (collector : Collector R)
    (source : FrameSource T R) (request : SessionRequest T) (m : Int64),
    (session.sampleThread collector source request).result = .error (.invalidMaxFrames m) →
      m.toInt = (min configuration.maxFrames.toNat 9_223_372_036_854_775_807 : Nat)
  /-- While the session is started, a flush thread is refused exactly for an interval below a
  millisecond, -/
  intervalTooShort_iff : session.isStarted = true → ∀ interval,
    session.startScheduler.value = .error (.intervalTooShort interval) ↔
      configuration.flushInterval < .ofMillis 1 ∧ interval = configuration.flushInterval
  /-- which is what validation finds if the budget is in range. -/
  flushIntervalTooShort_iff : session.isStarted = true →
    configuration.maxFrames.toNat ≤ maxFramesLimit → ∀ interval,
    session.startScheduler.value = .error (.intervalTooShort interval) ↔
      configuration.validate = .error (.flushIntervalTooShort interval)
  /-- With a configuration from a text, no capture is refused for the configured budget, -/
  sampleThread_ofJson : ∀ s, Configuration.ofJson s = .ok configuration →
    ∀ {T R : Type} [Inhabited R] (collector : Collector R) (source : FrameSource T R)
      (request : SessionRequest T),
      (∀ m, (session.sampleThread collector source request).result ≠
        .error (.invalidMaxFrames m)) ∧
      (Label.Valid request.labels →
        ∃ outcome, (session.sampleThread collector source request).result = .ok outcome)
  /-- and a flush thread is started whenever the session is. -/
  startScheduler_ofJson : ∀ s, Configuration.ofJson s = .ok configuration →
    (∀ interval, session.startScheduler.value ≠ .error (.intervalTooShort interval)) ∧
      (session.isStarted = true → ∃ started, session.startScheduler.value = .ok started)

omit [ProfileStore P] in
/-- A session that is not started has no thread to refuse. -/
theorem startScheduler_ne_intervalTooShort {interval : Duration}
    (hlong : ¬ session.configuration.flushInterval < .ofMillis 1) :
    session.startScheduler.value ≠ .error (.intervalTooShort interval) := by
  intro h
  by_cases hstarted : session.isStarted = true
  · exact hlong ((session.startScheduler_eq_intervalTooShort_iff hstarted).1 h).1
  · rw [isStarted, Bool.not_eq_true, Option.isSome_eq_false_iff, Option.isNone_iff_eq_none]
      at hstarted
    rw [startScheduler, recorder, hstarted] at h
    cases h

/-- **Every session enforces what it is configured with**, whatever it has been through. -/
theorem enforces : session.Enforces session.configuration where
  invalidMaxFrames_iff := fun collector source request => by
    simp only [sampleThread_eq_invalidMaxFrames_iff,
      Configuration.validate_eq_invalidMaxFrames_iff, exists_eq_left, exists_and_left, exists_eq,
      and_true]
  invalidMaxFrames_toInt := fun collector source request m h => by
    rw [((session.sampleThread_eq_invalidMaxFrames_iff collector source request).1 h).1,
      toInt_configuredMaxFrames]
  intervalTooShort_iff := fun hstarted interval =>
    session.startScheduler_eq_intervalTooShort_iff hstarted
  flushIntervalTooShort_iff := fun hstarted hle interval => by
    rw [session.startScheduler_eq_intervalTooShort_iff hstarted,
      Configuration.validate_eq_flushIntervalTooShort_iff, and_iff_right hle]
  sampleThread_ofJson := fun s hs T R _ collector source request => by
    have hvalid := ((Configuration.ofJson_eq_ok_iff s _).1 hs).2
    have hle := (Configuration.validate_eq_ok_iff.1 hvalid).1
    refine ⟨fun m h => ?_, fun hlabels => ?_⟩
    · exact Nat.not_lt.2 hle
        ((session.sampleThread_eq_invalidMaxFrames_iff collector source request).1 h).2
    · exact (session.sampleThread_screens collector source request).screened.isOk_iff.2
        ⟨session.inBudget_configuredMaxFrames_iff.2 hle, hlabels⟩
  startScheduler_ofJson := fun s hs => by
    have hvalid := ((Configuration.ofJson_eq_ok_iff s _).1 hs).2
    have hlong := Nat.not_lt.2 (Configuration.validate_eq_ok_iff.1 hvalid).2
    refine ⟨fun interval => session.startScheduler_ne_intervalTooShort hlong,
      fun hstarted => ?_⟩
    rcases session.startScheduler_of_isStarted hstarted with ⟨hshort, -⟩ | ⟨-, hstart⟩
    · exact (hlong hshort).elim
    · exact hstart

end Session

/-! ## Runs -/

namespace Session

variable [ProfileStore P] {session : Session P}

omit [ProfileStore P] in
theorem configuration_withRecorder? {α : Type} {id : RecorderId}
    {act : Recorder P → Option (Logged (α × Recorder P))} {acted : Logged (α × Session P)}
    (h : session.withRecorder? id act = some acted) :
    acted.value.2.configuration = session.configuration := by
  simp only [withRecorder?, bind, Option.bind_eq_some_iff] at h
  obtain ⟨recorder, -, acted', -, heq⟩ := h
  cases heq
  rfl

theorem configuration_start (now : Instant) :
    (session.start now).value.2.configuration = session.configuration := by
  rw [start]
  split <;> rfl

theorem configuration_recordSample [Inhabited R] (collector : Collector R)
    (source : FrameSource T R) (request : SessionRequest T) :
    (session.recordSample collector source request).session.configuration =
      session.configuration := by
  rcases session.recordSample_cases collector source request with ⟨error, -, heq⟩ |
    ⟨-, -, heq⟩ | ⟨-, id, recorder, -, -, heq⟩
  all_goals rw [heq]
  rfl

theorem configuration_flush? {finish now : Instant}
    {flushed : Logged (Except SessionError (Flushed P) × Session P)}
    (h : session.flush? finish now = some flushed) :
    flushed.value.2.configuration = session.configuration := by
  rw [flush?] at h
  split at h
  · cases h
    rfl
  · simp only [bind, Option.bind_eq_some_iff] at h
    obtain ⟨acted, hacted, heq⟩ := h
    cases heq
    have hconfiguration := configuration_withRecorder? hacted
    exact hconfiguration

theorem configuration_stop? {finish now : Instant}
    {flushed : Logged (Except SessionError (Flushed P) × Session P)}
    (h : session.stop? finish now = some flushed) :
    flushed.value.2.configuration = session.configuration := by
  simp only [stop?, bind, Option.bind_eq_some_iff] at h
  obtain ⟨acted, hacted, heq⟩ := h
  have hconfiguration := configuration_flush? hacted
  split at heq <;> cases heq <;> exact hconfiguration

theorem configuration_resetAfterFork (now : Instant) :
    (session.resetAfterFork now).value.configuration = session.configuration := by
  rw [resetAfterFork]
  split <;> rfl

end Session

namespace Sampler

variable [ProfileStore P] [Inhabited R]

/-- **No call reconfigures a session.** -/
theorem configuration_call? {sampler sampler' : Sampler P R} {call : SamplerCall T R}
    {answer : SamplerAnswer P T R} (hcall : sampler.call? call = some (answer, sampler')) :
    sampler'.session.configuration = sampler.session.configuration := by
  cases call with
  | start now =>
    cases hcall
    exact Session.configuration_start now
  | recordSample source request =>
    cases hcall
    exact Session.configuration_recordSample sampler.collector source request
  | sampleThread source request =>
    cases hcall
    exact Session.configuration_recordSample sampler.collector source _
  | capture source request =>
    cases hcall
    rfl
  | sample id source request =>
    obtain ⟨recorder, -, heq⟩ := Option.map_eq_some_iff.1 hcall
    cases heq
    rfl
  | flush finish now =>
    obtain ⟨flushed, hflushed, heq⟩ := Option.map_eq_some_iff.1 hcall
    cases heq
    exact Session.configuration_flush? hflushed
  | flushRecorder id finish now =>
    obtain ⟨flushed, hflushed, heq⟩ := Option.map_eq_some_iff.1 hcall
    cases heq
    exact Session.configuration_withRecorder? hflushed
  | stop finish now =>
    obtain ⟨flushed, hflushed, heq⟩ := Option.map_eq_some_iff.1 hcall
    cases heq
    exact Session.configuration_stop? hflushed
  | resetAfterFork now =>
    cases hcall
    exact Session.configuration_resetAfterFork now

/-- Nor does a run. -/
theorem configuration_calls? {sampler sampler' : Sampler P R} {calls : List (SamplerCall T R)}
    {answers : List (SamplerAnswer P T R)}
    (hcalls : sampler.calls? calls = some (answers, sampler')) :
    sampler'.session.configuration = sampler.session.configuration := by
  induction calls generalizing sampler answers with
  | nil =>
    cases hcalls
    rfl
  | cons call calls ih =>
    simp only [calls?, bind, Option.bind_eq_some_iff] at hcalls
    obtain ⟨⟨answer, next⟩, hcall, ⟨rest, last⟩, hrest, heq⟩ := hcalls
    cases heq
    exact (ih hrest).trans (configuration_call? hcall)

/-- **Limits are enforced as they are validated**, through any run of starts, captures, flushes,
stops and forks: where the run has come to, the session refuses what validation of its
configuration refuses, and nothing of a configuration that has been validated. -/
theorem enforces_after {configuration : Configuration} {collector : Collector R}
    {calls : List (SamplerCall T R)} {answers : List (SamplerAnswer P T R)}
    {sampler : Sampler P R}
    (hcalls : Sampler.calls? ⟨.new configuration, collector⟩ calls = some (answers, sampler)) :
    sampler.session.Enforces configuration := by
  have hconfiguration : sampler.session.configuration = configuration :=
    configuration_calls? hcalls
  rw [← hconfiguration]
  exact sampler.session.enforces

/-- A budget that no caller could ask for and no interval at all, in a session that has been
stopped, started again and carried over a fork. -/
theorem enforces_after_fork :
    let configuration : Configuration :=
      { maxFrames := 18_446_744_073_709_551_615, flushInterval := .zero }
    ∃ (answers : List (SamplerAnswer Profile Unit Unit)) (sampler : Sampler Profile Unit),
      Sampler.calls? ⟨.new configuration, ⟨none⟩⟩
        [.start .epoch, .stop .epoch .epoch, .start .epoch, .resetAfterFork .epoch] =
          some (answers, sampler) ∧
      sampler.session.isStarted = true ∧ sampler.session.Enforces configuration := by
  intro configuration
  obtain ⟨⟨answers, sampler⟩, hrun, hstarted⟩ :
      ∃ run : List (SamplerAnswer Profile Unit Unit) × Sampler Profile Unit,
        Sampler.calls? ⟨.new configuration, ⟨none⟩⟩
          [.start .epoch, .stop .epoch .epoch, .start .epoch, .resetAfterFork .epoch] = some run ∧
        run.2.session.isStarted = true :=
    ⟨_, by with_unfolding_all rfl, rfl⟩
  exact ⟨answers, sampler, hrun, hstarted, enforces_after hrun⟩

end Sampler

end StackProfiler
