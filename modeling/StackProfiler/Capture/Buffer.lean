import StackProfiler.Capture.Budget
import StackProfiler.Capture.Source
/-!
# Sampling buffers

The slots that captures of one frame budget use again and again. Raw frames and frames stand at the same
positions.
-/

namespace StackProfiler

/-- Slots for raw frames and for the frames they resolve to. -/
structure BufferView (R : Type) where
  raw : List (RawFrame R)
  frames : List Frame
  deriving DecidableEq

namespace BufferView

variable {R : Type}

/-- How many frames fit. -/
def capacity (view : BufferView R) : Nat := view.frames.length

/-- The slots without the first. -/
def rest (view : BufferView R) : BufferView R :=
  ⟨view.raw.drop 1, view.frames.drop 1⟩

/-- The slots with a frame put into the first and the others replaced. -/
def withFirst (view : BufferView R) (frame : Frame) (rest : BufferView R) : BufferView R :=
  ⟨view.raw.take 1 ++ rest.raw, frame :: rest.frames⟩

end BufferView

/-- Slots for a frame budget. -/
structure SamplingBuffer (R : Type) where
  maxFrames : Nat
  view : BufferView R
  deriving DecidableEq

/-- Empty slots for a frame budget, which must not be above the limit. -/
def SamplingBuffer.new {R : Type} [Inhabited R] (maxFrames : Nat) :
    Except SampleError (SamplingBuffer R) :=
  if maxFramesLimit < maxFrames then .error (.invalidMaxFrames (Int64.ofNat maxFrames))
  else .ok ⟨maxFrames, List.replicate maxFrames default, List.replicate maxFrames {}⟩

end StackProfiler
