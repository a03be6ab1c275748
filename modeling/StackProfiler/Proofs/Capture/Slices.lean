import StackProfiler.Capture.Collector
/-!
# Captures — slot by slot

A capture as a procedure on four slices, for handles, lines, native flags and
frames, which reads and writes one slot after the other. Nothing in it is taken for
granted: a slot that there is not, a part longer than its slice, slices of different
lengths for one walk and a number that leaves its word are missteps, and a misstep
ends the procedure (`SlicedCollector.capture`).
-/

namespace StackProfiler

variable {T R α : Type}

/-! ## Steps that may fail -/

/-- What ends a procedure on slices. -/
inductive Misstep
  /-- There is no such slot. -/
  | slot (index slots : Nat)
  /-- There are not so many slots. -/
  | part (count slots : Nat)
  /-- The slices for one walk have different lengths. -/
  | uneven
  /-- A number is below zero or does not fit into a word. -/
  | number
  deriving DecidableEq

namespace Slots

/-- Reads a slot. -/
def read (slots : List α) (i : Nat) : Except Misstep α :=
  match slots[i]? with
  | some item => .ok item
  | none => .error (.slot i slots.length)

/-- Overwrites a slot. -/
def write (slots : List α) (i : Nat) (item : α) : Except Misstep (List α) :=
  if i < slots.length then .ok (slots.set i item) else .error (.slot i slots.length)

/-- Parts the first `n` slots from the others. -/
def part (slots : List α) (n : Nat) : Except Misstep (List α × List α) :=
  if n ≤ slots.length then .ok (slots.take n, slots.drop n) else .error (.part n slots.length)

end Slots

/-- A sum of two counts. -/
def addCounts (a b : Nat) : Except Misstep Nat :=
  if a + b < UInt64.size then .ok (a + b) else .error .number

/-- A difference of two counts. -/
def subCounts (a b : Nat) : Except Misstep Nat :=
  if b ≤ a then .ok (a - b) else .error .number

/-! ## Slices -/

/-- Four slices. The slots at one index are about one frame. -/
structure Slices (R : Type) where
  handles : List R
  lines : List Int32
  natives : List Bool
  frames : List Frame

namespace Slices

/-- Each of the four slices has `n` slots. -/
structure HasSlots (slices : Slices R) (n : Nat) : Prop where
  handles : slices.handles.length = n
  lines : slices.lines.length = n
  natives : slices.natives.length = n
  frames : slices.frames.length = n

/-- How many frames fit. -/
def capacity (slices : Slices R) : Nat := slices.frames.length

/-- The first slots, one of each slice, and the others. -/
def splitFirst (slices : Slices R) : Except Misstep (Slices R × Slices R) := do
  let frames ← Slots.part slices.frames 1
  let handles ← Slots.part slices.handles 1
  let lines ← Slots.part slices.lines 1
  let natives ← Slots.part slices.natives 1
  return (⟨handles.1, lines.1, natives.1, frames.1⟩, ⟨handles.2, lines.2, natives.2, frames.2⟩)

/-- Slices that stand one behind the other. -/
def append (first rest : Slices R) : Slices R :=
  ⟨first.handles ++ rest.handles, first.lines ++ rest.lines, first.natives ++ rest.natives,
    first.frames ++ rest.frames⟩

/-- The raw frames in the first three slices. -/
def raw (slices : Slices R) : List (RawFrame R) :=
  (slices.handles.zip (slices.lines.zip slices.natives)).map fun slot =>
    ⟨slot.1, slot.2.1, slot.2.2⟩

/-- Slices with other raw frames in the first three. -/
def withRaw (slices : Slices R) (raw : List (RawFrame R)) : Slices R :=
  ⟨raw.map RawFrame.handle, raw.map RawFrame.line, raw.map RawFrame.isNative, slices.frames⟩

/-- Walks a thread into the first three slices, which have to be of one length. -/
def walk (source : FrameSource T R) (thread : T) (slices : Slices R) :
    Except Misstep (Walk × Slices R) :=
  if slices.lines.length = slices.handles.length ∧
      slices.natives.length = slices.handles.length then
    let walked := source.walk thread 0 slices.raw
    .ok (walked.1, slices.withRaw walked.2)
  else .error .uneven

/-- The place of a caller that stands at an index, if there is one. -/
def place (source : FrameSource T R) (slices : Slices R) :
    Option Nat → Except Misstep (String × UInt32)
  | some caller => do
    let handle ← Slots.read slices.handles caller
    let line ← Slots.read slices.lines caller
    return (source.fileName handle, if line < 0 then 0 else line.toUInt32)
  | none => .ok ("", 0)

/-- Resolves the frames below an index, the outermost first. The innermost managed frame so far stands at
`caller`. -/
def resolveBelow (source : FrameSource T R) (caller : Option Nat) (slices : Slices R) :
    Nat → Except Misstep (Slices R)
  | 0 => .ok slices
  | i + 1 => do
    let handle ← Slots.read slices.handles i
    let native ← Slots.read slices.natives i
    let caller := if native then caller else some i
    let place ← slices.place source caller
    let frames ← Slots.write slices.frames i
      ⟨source.functionName handle, place.1, place.2, native⟩
    resolveBelow source caller { slices with frames } i

/-- Resolves the first frames. If they fill the slots and the stack is deeper, the last slot stands for
the frames that did not fit and for the one it replaces. -/
def resolve (source : FrameSource T R) (thread : T) (slices : Slices R) (captured : Nat) :
    Except Misstep (Slices R) := do
  let capacity := slices.capacity
  let slices ← slices.resolveBelow source none captured
  let depth := (source.stackDepth thread).toNat
  if captured = capacity ∧ capacity < depth then
    let last ← subCounts capacity 1
    let omitted ← addCounts (← subCounts depth capacity) 1
    let frames ← Slots.write slices.frames last (.omitted omitted)
    return { slices with frames }
  else return slices

/-- Walks a thread into slices, and says how many frames are in them. -/
def walkInto (source : FrameSource T R) (thread : T) (slices : Slices R) :
    Except Misstep (Nat × Slices R) :=
  if slices.capacity = 0 then .ok (0, slices)
  else do
    let (walk, slices) ← slices.walk source thread
    match walk with
    | .complete count | .interrupted count =>
      let captured := min count.toNat slices.capacity
      return (captured, ← slices.resolve source thread captured)
    | .threadNotAlive => return (0, slices)
    | .inNativeCode =>
      let frames ← Slots.write slices.frames 0 .inNativeCode
      return (1, { slices with frames })

/-- Fills the slots for a capture. -/
def fill (source : FrameSource T R) (thread : T) (inGc : Bool) (slices : Slices R) :
    Except Misstep (Nat × Slices R) :=
  if inGc then do
    let (first, rest) ← slices.splitFirst
    let frames ← Slots.write first.frames 0 .garbageCollection
    let (walked, rest) ← rest.walkInto source thread
    return (← addCounts 1 walked, { first with frames }.append rest)
  else slices.walkInto source thread

end Slices

/-! ## Collectors -/

/-- Slices for a frame budget. -/
structure SlicedBuffer (R : Type) where
  maxFrames : Nat
  slices : Slices R

/-- Empty slices for a frame budget, which must not be above the limit. -/
def SlicedBuffer.new [Inhabited R] (maxFrames : Nat) : Except SampleError (SlicedBuffer R) :=
  if maxFramesLimit < maxFrames then .error (.invalidMaxFrames (Int64.ofNat maxFrames))
  else .ok ⟨maxFrames, List.replicate maxFrames default, List.replicate maxFrames 0,
    List.replicate maxFrames false, List.replicate maxFrames {}⟩

/-- A collector that keeps slices. -/
structure SlicedCollector (R : Type) where
  buffer : Option (SlicedBuffer R) := none

namespace SlicedCollector

variable [Inhabited R]

/-- The slices for a budget: those there are, if they are for this budget, else empty ones. -/
def bufferFor (collector : SlicedCollector R) (maxFrames : Nat) :
    Except SampleError (SlicedBuffer R) :=
  match collector.buffer with
  | some buffer =>
    if buffer.maxFrames = maxFrames then .ok buffer else SlicedBuffer.new maxFrames
  | none => SlicedBuffer.new maxFrames

/-- **Captures the stack of a thread slot by slot.** -/
def capture (collector : SlicedCollector R) (source : FrameSource T R) (request : CaptureRequest T) :
    Except Misstep (Except SampleError Sample × SlicedCollector R) :=
  match checkMaxFrames request.maxFrames with
  | .error error => .ok (.error error, collector)
  | .ok maxFrames =>
    match Label.check request.labels with
    | .error error => .ok (.error error, collector)
    | .ok () =>
      if maxFrames = 0 then
        let frames := if request.inGc then [Frame.garbageCollection] else []
        .ok (.ok ⟨frames, request.labels, request.values⟩, collector)
      else
        match collector.bufferFor maxFrames with
        | .error error => .ok (.error error, {})
        | .ok buffer => do
          let (captured, slices) ← buffer.slices.fill source request.thread request.inGc
          let frames ← Slots.part slices.frames captured
          return (.ok ⟨frames.1, request.labels, request.values⟩,
            ⟨some { buffer with slices }⟩)

/-- A collector after captures, each from a source as it was then. -/
def after (history : List (FrameSource T R × CaptureRequest T)) :
    Except Misstep (SlicedCollector R) :=
  history.foldlM (fun collector past => do return (← collector.capture past.1 past.2).2) {}

end SlicedCollector

end StackProfiler
