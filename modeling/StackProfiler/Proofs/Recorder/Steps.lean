import StackProfiler.Recorder.Recording
import StackProfiler.Recorder.Flush
/-!
# Recorders — what a step can be

The steps of a flush, one by one, with what each asks of the recorder and what
it makes of it (`Flush.Makes`). Whatever is said of the steps of a flush is
proved from this list.
-/

namespace StackProfiler

@[simp]
theorem SlotId.other_other (id : SlotId) : id.other.other = id := by
  cases id <;> rfl

theorem SlotId.ne_other (id : SlotId) : id ≠ id.other := by
  cases id <;> decide

/-- Of two slots, one is the other of the other. -/
theorem SlotId.eq_other_of_ne {id other : SlotId} (h : id ≠ other) : id = other.other := by
  cases id <;> cases other <;> first | rfl | exact absurd rfl h

@[simp]
theorem Recorder.enabled_setSlot {P : Type} (recorder : Recorder P) (id : SlotId) (slot : Slot P) :
    (recorder.setSlot id slot).enabled = recorder.enabled := by
  cases id <;> rfl

@[simp]
theorem Recorder.dropped_setSlot {P : Type} (recorder : Recorder P) (id : SlotId) (slot : Slot P) :
    (recorder.setSlot id slot).dropped = recorder.dropped := by
  cases id <;> rfl

/-- **The steps of a flush** that was asked for at `finish`, with `now` on the
clock. -/
inductive Flush.Makes {P : Type} [ProfileStore P] (finish now : Instant) (recorder : Recorder P) :
    Flush P → Flush P → Recorder P → Prop
  | enter (hfree : recorder.flushing = false) :
      Makes finish now recorder .entering .looking { recorder with flushing := true }
  | look : Makes finish now recorder .looking (.stamping recorder.active now) recorder
  | stamp (old : SlotId) (moment : Instant) :
      Makes finish now recorder (.stamping old moment) (.opening old moment)
        (recorder.setStore old.other
          (ProfileStore.setStartTime moment (recorder.slot old.other).store))
  | unlock (old : SlotId) (moment : Instant) :
      Makes finish now recorder (.opening old moment) (.locking old moment)
        (recorder.setLocked old.other false)
  | lock (old : SlotId) (moment : Instant) (hfree : (recorder.slot old).locked = false) :
      Makes finish now recorder (.locking old moment) (.switching old moment)
        (recorder.setLocked old true)
  | switch (old : SlotId) (moment : Instant) :
      Makes finish now recorder (.switching old moment) (.taking old moment)
        { recorder with active := old.other }
  | take (old : SlotId) (moment : Instant) :
      Makes finish now recorder (.taking old moment)
        (.leaving
          ⟨ProfileStore.startTime (ProfileStore.reset moment (recorder.slot old).store).1, finish,
            moment, (ProfileStore.reset moment (recorder.slot old).store).1⟩)
        (recorder.setStore old (ProfileStore.reset moment (recorder.slot old).store).2)
  | leave (flushed : Flushed P) :
      Makes finish now recorder (.leaving flushed) (.done flushed)
        { recorder with flushing := false }

/-- There are no other steps. -/
theorem Flush.makes_of_step? {P : Type} [ProfileStore P] {finish now : Instant}
    {recorder recorder' : Recorder P} {flush next : Flush P}
    (h : flush.step? finish now recorder = some (next, recorder')) :
    Makes finish now recorder flush next recorder' := by
  cases flush with
  | entering =>
    simp only [step?] at h
    split at h
    · cases h
    · next hflushing =>
      cases h
      exact .enter (Bool.eq_false_iff.2 hflushing)
  | looking =>
    cases h
    exact .look
  | stamping old moment =>
    cases h
    exact .stamp old moment
  | opening old moment =>
    cases h
    exact .unlock old moment
  | locking old moment =>
    simp only [step?] at h
    split at h
    · cases h
    · next hlocked =>
      cases h
      exact .lock old moment (Bool.eq_false_iff.2 hlocked)
  | switching old moment =>
    cases h
    exact .switch old moment
  | taking old moment =>
    cases h
    exact .take old moment
  | leaving flushed =>
    cases h
    exact .leave flushed
  | done flushed => cases h

end StackProfiler
