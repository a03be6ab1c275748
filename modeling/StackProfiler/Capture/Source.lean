import StackProfiler.Frame
/-!
# Sources of frames

The host runtime gives the stacks of its threads as raw frames, opaque handles that it can name later. A
walk writes into slots that the caller provides; what it reports need not agree with what it wrote.
-/

namespace StackProfiler

/-- An entry of a stack as the host runtime gives it. -/
structure RawFrame (R : Type) where
  handle : R
  line : Int32
  isNative : Bool
  deriving DecidableEq

/-- A slot into which nothing has been written. -/
instance {R : Type} [Inhabited R] : Inhabited (RawFrame R) := ⟨⟨default, 0, false⟩⟩

/-- What a walk reports. -/
inductive Walk
  /-- It went through and wrote this many frames. -/
  | complete (count : UInt64)
  /-- It broke off; the frames it wrote hold. -/
  | interrupted (count : UInt64)
  /-- The thread has ended or not begun. -/
  | threadNotAlive
  /-- The thread runs, but nothing the host runtime knows of. -/
  | inNativeCode
  deriving DecidableEq

/-- The host runtime as a sampler sees it: `T` are its threads and `R` its handles of frames. -/
structure FrameSource (T R : Type) where
  /-- Writes the stack of a thread, from so many frames below its top on, into slots. -/
  walk : T → Nat → List (RawFrame R) → Walk × List (RawFrame R)
  /-- A walk neither adds slots nor takes any away. -/
  walk_length : ∀ thread start slots, (walk thread start slots).2.length = slots.length
  /-- The number of frames on the stack of a thread. -/
  stackDepth : T → UInt64
  functionName : R → String
  fileName : R → String

/-- A question put to a source. -/
inductive SourceCall (T R : Type)
  | walk (thread : T) (start slots : Nat)
  | stackDepth (thread : T)
  | functionName (handle : R)
  | fileName (handle : R)
  deriving DecidableEq

end StackProfiler
