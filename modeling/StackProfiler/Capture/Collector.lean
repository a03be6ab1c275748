import StackProfiler.Capture.Buffer
import StackProfiler.Capture.Resolution
import StackProfiler.Log
import StackProfiler.Recorder.Recording
/-!
# Capturing stacks

A collector turns a walk of a thread into a sample of at most as many frames as its budget. A deeper
stack is cut off, and its last frame says how many frames it stands for; a capture during garbage
collection begins with a frame that says so. All a collector keeps from one capture to the next are its
slots.
-/

namespace StackProfiler

/-- Why a sample was dropped. -/
inductive DropReason
  /-- The recorder had no slot for it. -/
  | noActiveSlot
  /-- There was no recorder. -/
  | notStarted
  deriving DecidableEq

/-- What became of a sample. -/
inductive RecordOutcome
  | recorded
  | dropped (reason : DropReason)
  deriving DecidableEq

/-- The name of an outcome. -/
def RecordOutcome.name : RecordOutcome → String
  | .recorded => "Recorded"
  | .dropped .noActiveSlot => "Dropped(NoActiveSlot)"
  | .dropped .notStarted => "Dropped(NotStarted)"

/-- A capture as it is asked for. -/
structure CaptureRequest (T : Type) where
  thread : T
  maxFrames : Int64
  inGc : Bool
  values : MetricValues
  labels : List Label

/-! ## Walking a thread -/

/-- What a walk left behind: slots, the number of frames in them, and what was asked and logged. -/
structure Walked (T R : Type) where
  view : BufferView R
  captured : Nat
  calls : List (SourceCall T R)
  log : List LogRecord

namespace Walked

variable {T R : Type}

/-- Resolves the first raw frames. If they fill the slots and the stack is deeper, the last slot stands
for the frames that did not fit and for the one it replaces. -/
def resolve (source : FrameSource T R) (thread : T) (view : BufferView R) (captured : Nat)
    (log : List LogRecord) : Walked T R :=
  let resolved := Resolution.ofStack source (view.raw.take captured)
  let frames := resolved.frames ++ view.frames.drop captured
  let calls := .walk thread 0 view.raw.length :: resolved.calls.reverse
  if captured = view.capacity then
    let depth := (source.stackDepth thread).toNat
    let frames :=
      if view.capacity < depth then
        frames.set (view.capacity - 1) (Frame.omitted (depth - view.capacity + 1))
      else frames
    ⟨{ view with frames }, captured, calls ++ [.stackDepth thread], log⟩
  else ⟨{ view with frames }, captured, calls, log⟩

/-- Walks a thread into slots. -/
def into (source : FrameSource T R) (thread : T) (view : BufferView R) : Walked T R :=
  if view.capacity = 0 then ⟨view, 0, [], []⟩
  else
    let (walk, raw) := source.walk thread 0 view.raw
    let view := { view with raw }
    match walk with
    | .complete count => resolve source thread view (min count.toNat view.capacity) []
    | .interrupted count =>
      resolve source thread view (min count.toNat view.capacity)
        [.debug s!"Stack walk interrupted after {count.toNat} frames"]
    | .threadNotAlive =>
      ⟨view, 0, [.walk thread 0 raw.length],
        [.trace "Thread is not alive. Recording an empty stack."]⟩
    | .inNativeCode =>
      ⟨{ view with frames := view.frames.set 0 .inNativeCode }, 1, [.walk thread 0 raw.length], []⟩

end Walked

/-! ## Collectors -/

/-- A collector: the slots of its last capture with a budget, if there was one. -/
structure Collector (R : Type) where
  buffer : Option (SamplingBuffer R) := none
  deriving DecidableEq

/-- An attempt to capture: its result, what the source was asked, what was logged, and the collector
after it. -/
structure Captured (T R : Type) where
  result : Except SampleError Sample
  calls : List (SourceCall T R)
  log : List LogRecord
  collector : Collector R

namespace Collector

variable {T R : Type} [Inhabited R]

/-- The slots for a budget: those there are, if they are for this budget, else empty ones. -/
def bufferFor (collector : Collector R) (maxFrames : Nat) : Except SampleError (SamplingBuffer R) :=
  match collector.buffer with
  | some buffer =>
    if buffer.maxFrames = maxFrames then .ok buffer else SamplingBuffer.new maxFrames
  | none => SamplingBuffer.new maxFrames

/-- Fills the slots for a capture. -/
def fill (source : FrameSource T R) (thread : T) (inGc : Bool) (view : BufferView R) : Walked T R :=
  if inGc then
    let walked := Walked.into source thread view.rest
    { walked with
      view := view.withFirst .garbageCollection walked.view
      captured := 1 + walked.captured }
  else Walked.into source thread view

/-- **Captures the stack of a thread.** The budget is checked before the labels, and both before anything
is walked. With a budget of zero nothing is walked, and garbage collection alone is reported. -/
def capture (collector : Collector R) (source : FrameSource T R) (request : CaptureRequest T) :
    Captured T R :=
  let refuse := fun error => ⟨.error error, [], [], collector⟩
  match checkMaxFrames request.maxFrames with
  | .error error => refuse error
  | .ok maxFrames =>
    match Label.check request.labels with
    | .error error => refuse error
    | .ok () =>
      if maxFrames = 0 then
        let frames := if request.inGc then [Frame.garbageCollection] else []
        ⟨.ok ⟨frames, request.labels, request.values⟩, [], [], collector⟩
      else
        match collector.bufferFor maxFrames with
        -- by then the slots there were have been taken out of the collector
        | .error error => { refuse error with collector := {} }
        | .ok buffer =>
          let walked := fill source request.thread request.inGc buffer.view
          ⟨.ok ⟨walked.view.frames.take walked.captured, request.labels, request.values⟩,
            walked.calls, walked.log, ⟨some { buffer with view := walked.view }⟩⟩

end Collector

/-! ## Capturing into a recorder -/

/-- An attempt to capture and record. -/
structure Sampled (P T R : Type) where
  result : Except SampleError RecordOutcome
  calls : List (SourceCall T R)
  log : List LogRecord
  collector : Collector R
  recorder : Recorder P

/-- What became of a sample that a recorder took or refused. -/
def RecordOutcome.ofRecorded : Except RecordError Unit → RecordOutcome
  | .ok () => .recorded
  | .error .noActiveSlot => .dropped .noActiveSlot

/-- Captures the stack of a thread and records it. -/
def Collector.sample {P T R : Type} [ProfileStore P] [Inhabited R] (collector : Collector R)
    (source : FrameSource T R) (recorder : Recorder P) (request : CaptureRequest T) :
    Sampled P T R :=
  let captured := collector.capture source request
  match captured.result with
  | .error error => ⟨.error error, captured.calls, captured.log, captured.collector, recorder⟩
  | .ok sample =>
    let recorded := recorder.record sample
    ⟨.ok (.ofRecorded recorded.value.1), captured.calls, captured.log ++ recorded.log,
      captured.collector, recorded.value.2⟩

end StackProfiler
