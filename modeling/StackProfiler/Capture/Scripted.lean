import StackProfiler.Capture.Source
/-!
# Scripted sources

A source whose threads are written down: each has a stack and a state, and may be made to report more
frames than it writes or another depth than it has. Handles are positions in a table that all threads
share and that only grows, so a handle keeps its meaning when a thread is replaced.
-/

namespace StackProfiler

/-- A frame as it is written down. -/
structure ScriptedFrame where
  name : String
  filename : String
  line : Int32
  isNative : Bool
  deriving DecidableEq, Inhabited

/-- What a scripted thread does when it is walked. -/
inductive ThreadState
  | alive
  | dead
  | native
  /-- The walk breaks off behind this many frames. -/
  | interrupted (count : Nat)
  deriving DecidableEq

/-- A thread that is written down. Its stack is given by handles, its top first. -/
structure ScriptedThread where
  id : Nat
  stack : List Nat
  state : ThreadState := .alive
  /-- The depth it claims to have. -/
  depth : Option UInt64 := none
  /-- The number of frames its walks claim to have written. -/
  report : Option UInt64 := none
  deriving DecidableEq

/-- The threads of a scripted source and the frames that their handles stand for. -/
structure Script where
  table : Array ScriptedFrame
  threads : List ScriptedThread := []

namespace Script

/-- The frame of a handle. -/
def frame (script : Script) (handle : Nat) : ScriptedFrame :=
  (script.table[handle]?).getD default

/-- The raw frame of a handle. -/
def raw (script : Script) (handle : Nat) : RawFrame Nat :=
  ⟨handle, (script.frame handle).line, (script.frame handle).isNative⟩

/-- The thread of a number. -/
def thread? (script : Script) (id : Nat) : Option ScriptedThread :=
  script.threads.find? fun thread => thread.id = id

/-- The script with a thread replaced or added, whose stack is put at the end of the table. -/
def setThread (script : Script) (frames : List ScriptedFrame) (thread : ScriptedThread) : Script :=
  let stack := (List.range frames.length).map (script.table.size + ·)
  let thread := { thread with stack }
  let others := script.threads
  { table := script.table ++ frames.toArray
    threads :=
      if others.any (fun other => other.id = thread.id) then
        others.map fun other => if other.id = thread.id then thread else other
      else others ++ [thread] }

/-- What a walk into so many slots reports, and the frames it writes into the first of them. -/
def written (script : Script) (id start slots : Nat) : Walk × List (RawFrame Nat) :=
  match script.thread? id with
  | none => (.threadNotAlive, [])
  | some thread =>
    let stack := thread.stack.drop start
    let frames := fun limit => ((stack.take limit).take slots).map script.raw
    let count := fun (frames : List (RawFrame Nat)) =>
      thread.report.getD (UInt64.ofNat frames.length)
    match thread.state with
    | .dead => (.threadNotAlive, [])
    | .native => (.inNativeCode, [])
    | .alive => (.complete (count (frames slots)), frames slots)
    | .interrupted limit =>
      (if limit < stack.length then .interrupted (count (frames limit))
        else .complete (count (frames limit)), frames limit)

/-- Slots with frames written into the first of them, as far as there are slots. -/
def overwrite (frames slots : List (RawFrame Nat)) : List (RawFrame Nat) :=
  frames.take slots.length ++ slots.drop frames.length

theorem overwrite_length (frames slots : List (RawFrame Nat)) :
    (overwrite frames slots).length = slots.length := by
  rw [overwrite, List.length_append, List.length_take, List.length_drop]
  omega

/-- The script as a source. -/
def source (script : Script) : FrameSource Nat Nat where
  walk id start slots :=
    let (walk, frames) := script.written id start slots.length
    (walk, overwrite frames slots)
  walk_length _ _ slots := overwrite_length _ slots
  stackDepth id :=
    match script.thread? id with
    | none => 0
    | some thread =>
      if thread.state = .dead then 0
      else thread.depth.getD (UInt64.ofNat thread.stack.length)
  functionName handle := (script.frame handle).name
  fileName handle := (script.frame handle).filename

end Script

end StackProfiler
