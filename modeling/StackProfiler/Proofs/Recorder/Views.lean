import StackProfiler.Proofs.Profile.Scratch
import StackProfiler.Proofs.Recorder.Traffic
/-!
# Recorders — what they do is up to the calls on their stores

A recorder looks at a store only through the calls that it makes on it. So a view of stores
that these calls respect is respected by every step of a recording and of a flush, and
whatever is done with a recorder is done with what is seen of it (`Traffic.after_map`).
In particular a recorder whose profiles reuse their keys does, however its calls overlap,
what one does whose profiles build every key anew (`Traffic.profile_after`).
-/

namespace StackProfiler

variable {P Q : Type}

/-! ## What is seen -/

/-- What is seen of a slot. -/
def Slot.map (view : P → Q) (slot : Slot P) : Slot Q := ⟨slot.locked, view slot.store⟩

/-- What is seen of what was flushed. -/
def Flushed.map (view : P → Q) (flushed : Flushed P) : Flushed Q where
  start := flushed.start
  finish := flushed.finish
  nextStart := flushed.nextStart
  profile := view flushed.profile

/-- What is seen of a recorder. -/
def Recorder.map (view : P → Q) (recorder : Recorder P) : Recorder Q where
  enabled := recorder.enabled
  one := recorder.one.map view
  two := recorder.two.map view
  active := recorder.active
  flushing := recorder.flushing
  dropped := recorder.dropped

/-- What is seen of a flush. -/
def Flush.map (view : P → Q) : Flush P → Flush Q
  | .entering => .entering
  | .looking => .looking
  | .stamping old now => .stamping old now
  | .opening old now => .opening old now
  | .locking old now => .locking old now
  | .switching old now => .switching old now
  | .taking old now => .taking old now
  | .leaving flushed => .leaving (flushed.map view)
  | .done flushed => .done (flushed.map view)

/-- What is seen of a flush that has been called. -/
def FlushCall.map (view : P → Q) (call : FlushCall P) : FlushCall Q where
  finish := call.finish
  since := call.since
  phase := call.phase.map view
  took := call.took

/-- What is seen of a recorder in use. -/
def Traffic.map (view : P → Q) (traffic : Traffic P) : Traffic Q where
  recorder := traffic.recorder.map view
  recorded := traffic.recorded
  recording := traffic.recording
  flushes := traffic.flushes.map (FlushCall.map view)
  held := traffic.held
  returned := traffic.returned

section Slots

variable (view : P → Q) (recorder : Recorder P) (id : SlotId)

@[simp]
theorem Recorder.slot_map : (recorder.map view).slot id = (recorder.slot id).map view := by
  cases id <;> rfl

@[simp]
theorem Recorder.map_setLocked (locked : Bool) :
    (recorder.setLocked id locked).map view = (recorder.map view).setLocked id locked := by
  cases id <;> rfl

@[simp]
theorem Recorder.map_setStore (store : P) :
    (recorder.setStore id store).map view = (recorder.map view).setStore id (view store) := by
  cases id <;> rfl

end Slots

/-! ## Steps -/

variable [ProfileStore P] [ProfileStore Q] {view : P → Q} (h : ProfileStore.Respects view)
include h

/-- **A step of a recording.** -/
theorem Recording.step_map (sample : Sample) (recorder : Recorder P) (recording : Recording) :
    recording.step sample (recorder.map view) =
      (recording.step sample recorder).map id (Recorder.map view) := by
  cases recording with
  | trying round slot =>
    simp only [step, Recorder.slot_map, Slot.map]
    split
    · rfl
    · simp
  | adding slot => simp [step, Slot.map, h.add]
  | releasing slot => simp [step]
  | dropping => rfl
  | done outcome => rfl

/-- **A step of a flush**: it is made, and waits, just as what is seen of it does. -/
theorem Flush.step?_map (finish now : Instant) (recorder : Recorder P) (flush : Flush P) :
    (flush.map view).step? finish now (recorder.map view) =
      (flush.step? finish now recorder).map (Prod.map (Flush.map view) (Recorder.map view)) := by
  cases flush with
  | entering =>
    cases hflushing : recorder.flushing <;> simp [map, step?, Recorder.map, hflushing]
  | looking => rfl
  | stamping old now => simp [map, step?, Slot.map, h.setStartTime]
  | opening old now => simp [map, step?]
  | locking old now =>
    simp only [map, step?, Recorder.slot_map, Slot.map]
    split
    · rfl
    · simp [map]
  | switching old now => rfl
  | taking old now =>
    have hreset := h.reset now (recorder.slot old).store
    simp [map, step?, Slot.map, Flushed.map, ← hreset, h.startTime]
  | leaving flushed => rfl
  | done flushed => rfl

namespace Traffic

omit h [ProfileStore P] [ProfileStore Q] in
/-- After a step of a flush, which calls on the same stores. -/
theorem map_flushStep (traffic : Traffic P) (i : Nat) (call : FlushCall P) (phase : Flush P)
    (recorder : Recorder P) :
    (traffic.flushStep i call phase recorder).map view =
      (traffic.map view).flushStep i (call.map view) (phase.map view) (recorder.map view) := by
  have hcall : (call.phase.map view).storeCall? = call.phase.storeCall? := by
    cases call.phase <;> rfl
  have hresult : (phase.map view).result?.isSome = phase.result?.isSome := by
    cases phase <;> rfl
  simp [map, flushStep, FlushCall.map, FlushCall.stepped, hcall, hresult]

/-- **A step of one of the calls** on a recorder in use. -/
theorem step?_map (traffic : Traffic P) (action : Action) :
    (traffic.map view).step? action = (traffic.step? action).map (Traffic.map view) := by
  cases action with
  | record sample =>
    cases hrecording : traffic.recording <;> simp [step?, map, hrecording]
  | recordStep =>
    simp only [step?, Option.map_map]
    -- where the recording comes to is not up to what is in the stores
    refine Option.map_congr fun recording _ => ?_
    simp [recordStep, map, Recording.step_map h]
  | flush finish => simp [step?, map, FlushCall.map, FlushCall.called, Flush.map]
  | flushStep i now =>
    have hflushes : (traffic.map view).flushes[i]? = traffic.flushes[i]?.map (FlushCall.map view) :=
      List.getElem?_map ..
    cases hcall : traffic.flushes[i]? with
    | none => simp [step?, hflushes, hcall]
    | some call =>
      have hphase : (call.map view).phase.step? (call.map view).finish now
          (traffic.map view).recorder = _ := Flush.step?_map h call.finish now _ call.phase
      cases hstep : call.phase.step? call.finish now traffic.recorder <;>
        simp [step?, hflushes, hcall, hphase, hstep, map_flushStep]

/-- **However calls overlap**, what is seen of the recorder is a recorder on which the same
calls overlap in the same way. -/
theorem after_map (traffic : Traffic P) (actions : List Action) :
    (traffic.map view).after actions = (traffic.after actions).map view := by
  induction actions generalizing traffic with
  | nil => rfl
  | cons action actions ih =>
    -- an action that has to wait is put off on both sides
    have hstep : ((traffic.map view).step? action).getD (traffic.map view) =
        ((traffic.step? action).getD traffic).map view := by
      rw [step?_map h]
      cases traffic.step? action <;> rfl
    show (((traffic.map view).step? action).getD (traffic.map view)).after actions = _
    rw [hstep]
    exact ih _

omit h [ProfileStore P] [ProfileStore Q] in
/-- **A recorder whose profiles reuse their keys** is, whatever is done with it, one whose
profiles build every key anew. -/
theorem profile_after (enabled : EnabledMetrics) (now : Instant) (actions : List Action) :
    ((new enabled now).after actions).map ReusingProfile.profile =
      (new enabled now).after actions :=
  (after_map ReusingProfile.respects_profile (new enabled now) actions).symm

end Traffic

end StackProfiler
