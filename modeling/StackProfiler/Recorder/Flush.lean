import StackProfiler.Recorder.Basic
/-!
# Flushing a recorder

A flush opens the slot that was held back, takes the lock of the one that was active, and hands out what
that had gathered. Between the opening and the locking both slots can be locked, so a recording may land
in either: its sample goes out with this flush or with the next. Locking waits for a recording that is in
the old slot, and a flush waits for any other flush. Each step is one action on what the recorder shares
with others; `Recorder.flush` is a flush on its own.
-/

namespace StackProfiler

/-- Where a flush stands: what it does next. `old` is the slot that was active when it began and `now`
the instant at which one period ends and the next begins. -/
inductive Flush (P : Type)
  /-- Wait until no other flush is under way. -/
  | entering
  /-- Look which slot is active, and at the clock. -/
  | looking
  /-- Tell the store that was held back when it starts to take samples. -/
  | stamping (old : SlotId) (now : Instant)
  /-- Give back the lock of the slot that was held back. -/
  | opening (old : SlotId) (now : Instant)
  /-- Wait for the lock of the old slot. -/
  | locking (old : SlotId) (now : Instant)
  /-- Name the other slot as the active one. -/
  | switching (old : SlotId) (now : Instant)
  /-- Take what the old slot's store has gathered. -/
  | taking (old : SlotId) (now : Instant)
  /-- Let other flushes in. -/
  | leaving (flushed : Flushed P)
  /-- Nothing. -/
  | done (flushed : Flushed P)

namespace Flush

variable {P : Type}

/-- The call on a store that the next step makes. -/
def storeCall? : Flush P → Option (SlotId × StoreCall)
  | .stamping old now => some (old.other, .setStartTime now)
  | .taking old now => some (old, .reset now)
  | _ => none

/-- What the next step logs. -/
def log : Flush P → List LogRecord
  | .leaving _ | .entering | .looking | .stamping .. | .opening .. | .locking .. | .switching ..
  | .done _ => []
  | .taking old _ => [.debug s!"Flipped profile slots, slot {old.other.number} is now active"]

/-- What was flushed, once the flush is at its end. -/
def result? : Flush P → Option (Flushed P)
  | .done flushed => some flushed
  | _ => none

/-- How many steps are left. -/
def stepsLeft : Flush P → Nat
  | .entering => 8
  | .looking => 7
  | .stamping .. => 6
  | .opening .. => 5
  | .locking .. => 4
  | .switching .. => 3
  | .taking .. => 2
  | .leaving _ => 1
  | .done _ => 0

/-- **One step of a flush** that was asked for at `finish`, with `now` on the clock; none while it has to
wait and when it is at its end. -/
def step? [ProfileStore P] (finish now : Instant) (recorder : Recorder P) :
    Flush P → Option (Flush P × Recorder P)
  | .entering =>
    if recorder.flushing then none else some (.looking, { recorder with flushing := true })
  | .looking => some (.stamping recorder.active now, recorder)
  | .stamping old now =>
    some (.opening old now,
      recorder.setStore old.other
        (ProfileStore.setStartTime now (recorder.slot old.other).store))
  | .opening old now => some (.locking old now, recorder.setLocked old.other false)
  | .locking old now =>
    if (recorder.slot old).locked then none
    else some (.switching old now, recorder.setLocked old true)
  | .switching old now => some (.taking old now, { recorder with active := old.other })
  | .taking old now =>
    let (profile, left) := ProfileStore.reset now (recorder.slot old).store
    some (.leaving ⟨ProfileStore.startTime profile, finish, now, profile⟩,
      recorder.setStore old left)
  | .leaving flushed => some (.done flushed, { recorder with flushing := false })
  | .done _ => none

/-- Every step brings a flush nearer to its end. -/
theorem step?_stepsLeft_lt [ProfileStore P] {finish now : Instant} {recorder recorder' : Recorder P}
    {flush next : Flush P} (h : flush.step? finish now recorder = some (next, recorder')) :
    next.stepsLeft < flush.stepsLeft := by
  cases flush <;> simp only [step?] at h <;> (try split at h) <;>
    simp only [Option.some.injEq, Prod.mk.injEq, reduceCtorEq] at h <;>
    (obtain ⟨rfl, _⟩ := h; simp [stepsLeft])

/-- The steps of a flush to its end, with nothing between them; none if it would wait for ever. -/
def run [ProfileStore P] (finish now : Instant) (recorder : Recorder P) (flush : Flush P) :
    Option (Logged (Flushed P × Recorder P)) :=
  match flush.result? with
  | some flushed => some { value := (flushed, recorder) }
  | none =>
    match h : flush.step? finish now recorder with
    | none => none
    | some (next, recorder') =>
      have := step?_stepsLeft_lt h
      (run finish now recorder' next).map fun finished =>
        { finished with log := flush.log ++ finished.log }
termination_by flush.stepsLeft

/-- A flush at its end is left as it is; any other makes a step, if it can, and goes on from there. -/
theorem run_eq [ProfileStore P] (finish now : Instant) (recorder : Recorder P) (flush : Flush P) :
    run finish now recorder flush =
      match flush.result? with
      | some flushed => some { value := (flushed, recorder) }
      | none =>
        (flush.step? finish now recorder).bind fun next =>
          (run finish now next.2 next.1).map fun finished =>
            { finished with log := flush.log ++ finished.log } := by
  rw [run]
  congr 1
  split <;> simp [*]

end Flush

/-- Flushes a recorder that nobody else uses; none if one of its locks is never given back. -/
def Recorder.flush? {P : Type} [ProfileStore P] (recorder : Recorder P) (finish now : Instant) :
    Option (Logged (Flushed P × Recorder P)) :=
  Flush.entering.run finish now recorder

end StackProfiler
