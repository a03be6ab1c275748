/-!
# Frames

One entry of a captured stack. Besides the frames of the program there are placeholders, frames without
a function that carry a message in place of the file name.
-/

namespace StackProfiler

/-- One entry of a captured stack. -/
structure Frame where
  /-- The function's name, empty for a placeholder. -/
  name : String := ""
  filename : String := ""
  line : UInt32 := 0
  isNative : Bool := false
  deriving DecidableEq, Hashable, Inhabited

namespace Frame

/-- The frame that stands for something other than a call. -/
def placeholder (message : String) : Frame := { filename := message }

/-- The first frame of every stack that was captured during garbage collection. -/
def garbageCollection : Frame := placeholder "Garbage Collection"

/-- The only frame of a thread that runs nothing but native code. -/
def inNativeCode : Frame := placeholder "In native code"

/-- The last frame of a stack that did not fit, with the number of frames it stands for. -/
def omitted (count : Nat) : Frame := placeholder s!"{count} frames omitted"

end Frame

end StackProfiler
