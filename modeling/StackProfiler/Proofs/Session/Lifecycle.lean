import StackProfiler.Capture.Collector
import StackProfiler.Proofs.Capture.Slots
import StackProfiler.Proofs.Label
import StackProfiler.Proofs.Recorder.Period
import StackProfiler.Session.Basic
/-!
# Sessions — the lifecycle

What a session is to those who call it: it is not started, or it is started and
holds the captures recorded since its period began (`Lifecycle`). A start begins a
period, a flush hands out what it holds and begins the next, a stop hands it out
and ends it, and after a fork what is held is thrown away. So every recorded
capture is handed out or thrown away once, in order, or is still held
(`recorded_eq_released_append`).
-/

namespace StackProfiler

/-! ## Calls on a session -/

/-- A capture as it is asked of a session, with the source and the collector that
make it. -/
structure Sampling : Type 1 where
  Thread : Type
  Handle : Type
  [handle : Inhabited Handle]
  source : FrameSource Thread Handle
  collector : Collector Handle
  request : SessionRequest Thread

attribute [instance] Sampling.handle

namespace Sampling

/-- The same capture with another frame budget. -/
def withBudget (sampling : Sampling) (maxFrames : Int64) : Sampling :=
  { sampling with request := { sampling.request with maxFrames } }

/-- The labels that are asked for, texts first. -/
def labels (sampling : Sampling) : List Label :=
  sampling.request.texts.map (fun pair => Label.str pair.1 pair.2) ++
    sampling.request.numbers.map fun pair => Label.num pair.1 pair.2

/-- What is asked of the collector. -/
def captureRequest (sampling : Sampling) : CaptureRequest sampling.Thread :=
  ⟨sampling.request.thread, sampling.request.maxFrames, sampling.request.inGc,
    sampling.request.values, sampling.labels⟩

/-- **Valid input**: a frame budget in range and labels that may stand on one
sample. -/
structure Valid (sampling : Sampling) : Prop where
  budget_nonneg : 0 ≤ sampling.request.maxFrames.toInt
  budget_le : sampling.request.maxFrames.toInt ≤ 10000
  labels : Label.Valid sampling.labels

/-- The captured sample, or what is wrong with the input. -/
def sample (sampling : Sampling) : Except SampleError Sample :=
  (sampling.collector.capture sampling.source sampling.captureRequest).result

end Sampling

/-- A call on a session, with what the clock shows during it. -/
inductive SessionCall : Type 1
  | start (now : Instant)
  | recorder
  | recordSample (sampling : Sampling)
  /-- The budget asked for gives way to the configured one. -/
  | sampleThread (sampling : Sampling)
  | flush (finish now : Instant)
  | stop (finish now : Instant)
  | resetAfterFork (now : Instant)

/-! ## The machine -/

/-- **The states of a session.** -/
inductive Lifecycle
  | notStarted
  /-- The captures recorded since the period began, and when it began. -/
  | started (period : Period)

/-- What a call gives back, and what becomes of captures by it. -/
inductive LifecycleAnswer
  /-- To those who want the recorder. -/
  | granted (outcome : Except SessionError Unit)
  /-- The capture that was recorded; none if it was dropped for want of a start. -/
  | sampled (outcome : Except SampleError (Option Sample))
  /-- The captures that are handed out. -/
  | flushed (batch : Except SessionError (Flushed (List Sample)))
  /-- The captures that are thrown away. -/
  | reset (discarded : List Sample)

namespace LifecycleAnswer

/-- The captures that are recorded by a call. -/
def recorded : LifecycleAnswer → List Sample
  | .sampled (.ok (some sample)) => [sample]
  | _ => []

/-- The captures that a call hands out or throws away. -/
def released : LifecycleAnswer → List Sample
  | .flushed (.ok batch) => batch.profile
  | .reset discarded => discarded
  | _ => []

end LifecycleAnswer

namespace Lifecycle

/-- The captures that are held. -/
def pending : Lifecycle → List Sample
  | .notStarted => []
  | .started period => period.samples

/-- A capture is recorded while the session is started. -/
def record (state : Lifecycle) : Except SampleError Sample → LifecycleAnswer × Lifecycle
  | .error error => (.sampled (.error error), state)
  | .ok sample =>
    match state with
    | .notStarted => (.sampled (.ok none), .notStarted)
    | .started period =>
      (.sampled (.ok (some sample)), .started ⟨period.start, period.samples ++ [sample]⟩)

/-- What a started session holds is handed out, and it goes over to `next`. -/
def handOut (state : Lifecycle) (finish now : Instant) (next : Lifecycle) :
    LifecycleAnswer × Lifecycle :=
  match state with
  | .notStarted => (.flushed (.error .notInitialized), .notStarted)
  | .started period => (.flushed (.ok ⟨period.start, finish, now, period.samples⟩), next)

/-- The configured budget as a caller would give it. -/
def budget (configuration : Configuration) : Int64 :=
  Int64.ofNat (min configuration.maxFrames.toNat 9_223_372_036_854_775_807)

/-- **One call.** -/
def call (configuration : Configuration) (state : Lifecycle) :
    SessionCall → LifecycleAnswer × Lifecycle
  | .start now =>
    match state with
    | .notStarted => (.granted (.ok ()), .started ⟨now, []⟩)
    | .started period => (.granted (.error .alreadyStarted), .started period)
  | .recorder =>
    match state with
    | .notStarted => (.granted (.error .notInitialized), .notStarted)
    | .started period => (.granted (.ok ()), .started period)
  | .recordSample sampling => state.record sampling.sample
  | .sampleThread sampling => state.record (sampling.withBudget (budget configuration)).sample
  | .flush finish now => state.handOut finish now (.started ⟨now, []⟩)
  | .stop finish now => state.handOut finish now .notStarted
  | .resetAfterFork now =>
    match state with
    | .notStarted => (.reset [], .notStarted)
    | .started period => (.reset period.samples, .started ⟨now, []⟩)

/-- Calls one after the other, with the answer to each. -/
def calls (configuration : Configuration) (state : Lifecycle) :
    List SessionCall → List LifecycleAnswer × Lifecycle
  | [] => ([], state)
  | call :: rest =>
    let answered := state.call configuration call
    let answers := answered.2.calls configuration rest
    (answered.1 :: answers.1, answers.2)

/-! ## Every capture once -/

variable (configuration : Configuration) (state : Lifecycle)

/-- One call: what was held and what is recorded is released or held. -/
theorem pending_append_recorded (call : SessionCall) :
    let answered := state.call configuration call
    state.pending ++ answered.1.recorded = answered.1.released ++ answered.2.pending := by
  have hrecord : ∀ sample, let answered := state.record sample
      state.pending ++ answered.1.recorded = answered.1.released ++ answered.2.pending := by
    intro sample
    cases sample with
    | error error => cases state <;> simp [record, LifecycleAnswer.recorded,
        LifecycleAnswer.released]
    | ok sample => cases state <;> simp [record, LifecycleAnswer.recorded,
        LifecycleAnswer.released, pending]
  cases call with
  | recordSample sampling => exact hrecord _
  | sampleThread sampling => exact hrecord _
  | _ => cases state <;> simp [Lifecycle.call, handOut, LifecycleAnswer.recorded,
      LifecycleAnswer.released, pending]

/-- **Every recorded capture is released once**, in order, or still held; nothing
else is. -/
theorem recorded_eq_released_append (calls : List SessionCall) :
    let run := state.calls configuration calls
    state.pending ++ run.1.flatMap LifecycleAnswer.recorded =
      run.1.flatMap LifecycleAnswer.released ++ run.2.pending := by
  induction calls generalizing state with
  | nil => simp [Lifecycle.calls]
  | cons call calls ih =>
    have hcall := pending_append_recorded configuration state call
    have hcalls := ih (state.call configuration call).2
    dsimp only at hcall hcalls ⊢
    rw [Lifecycle.calls]
    simp only [List.flatMap_cons]
    rw [← List.append_assoc, hcall, List.append_assoc, hcalls, List.append_assoc]

end Lifecycle

end StackProfiler
