import StackProfiler.Sample.Error
/-!
# Frame budgets

How many frames a capture may keep.
-/

namespace StackProfiler

/-- No capture keeps more frames than this. -/
def maxFramesLimit : Nat := 10000

/-- The frame budget that a caller asks for, if it is between zero and the limit. -/
def checkMaxFrames (maxFrames : Int64) : Except SampleError Nat :=
  if 0 ≤ maxFrames.toInt && maxFrames.toInt ≤ maxFramesLimit then .ok maxFrames.toInt.toNat
  else .error (.invalidMaxFrames maxFrames)

end StackProfiler
