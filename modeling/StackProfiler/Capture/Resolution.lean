import StackProfiler.Capture.Source
/-!
# Resolving raw frames

Raw frames become frames by the names that the source gives them. A native frame has no place in the
program of its own: it is given the file and line of the nearest managed frame among its callers. So
frames are resolved from the outermost inwards.
-/

namespace StackProfiler

/-- The line of a raw frame, zero where it has none. -/
def RawFrame.lineNumber {R : Type} (raw : RawFrame R) : UInt32 :=
  if raw.line < 0 then 0 else raw.line.toUInt32

/-- Frames resolved so far, from the outermost on. -/
structure Resolution (T R : Type) where
  /-- The innermost managed frame so far. -/
  caller : Option (RawFrame R) := none
  frames : List Frame := []
  /-- What the source has been asked, the latest first. -/
  calls : List (SourceCall T R) := []

namespace Resolution

variable {T R : Type}

/-- Resolves the frame that the frames so far have called. -/
def add (source : FrameSource T R) (raw : RawFrame R) (resolved : Resolution T R) :
    Resolution T R :=
  let name := source.functionName raw.handle
  if raw.isNative then
    match resolved.caller with
    | some caller =>
      { resolved with
        frames := ⟨name, source.fileName caller.handle, caller.lineNumber, true⟩ :: resolved.frames
        calls := .fileName caller.handle :: .functionName raw.handle :: resolved.calls }
    | none =>
      { resolved with
        frames := ⟨name, "", 0, true⟩ :: resolved.frames
        calls := .functionName raw.handle :: resolved.calls }
  else
    { caller := some raw
      frames := ⟨name, source.fileName raw.handle, raw.lineNumber, false⟩ :: resolved.frames
      calls := .fileName raw.handle :: .functionName raw.handle :: resolved.calls }

/-- Resolves a stack that is given with its top first. -/
def ofStack (source : FrameSource T R) (stack : List (RawFrame R)) : Resolution T R :=
  stack.foldr (add source) {}

end Resolution

end StackProfiler
