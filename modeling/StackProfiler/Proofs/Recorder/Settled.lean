import StackProfiler.Proofs.Recorder.Steps
/-!
# Recorders — calls that do not overlap

Between calls a recorder is settled: no flush is under way, the active slot is
open and the other one is held back. On a settled recorder a recording adds to
the active store at its first try, a flush takes that store and makes the other
one active without waiting, and both leave the recorder settled.
-/

namespace StackProfiler

/-! ## Recordings that find a slot -/

namespace Recording

variable {P : Type} [ProfileStore P] {recorder : Recorder P}

/-- A recording that tries an open slot adds its sample there. -/
theorem value_run_of_open (sample : Sample) (round : Nat) {slot : SlotId}
    (hopen : (recorder.slot slot).locked = false) :
    ((trying round slot).run sample recorder).value =
      (.ok (), recorder.setStore slot (ProfileStore.add sample (recorder.slot slot).store)) := by
  have hstep : (trying round slot).step sample recorder =
      (.adding slot, recorder.setLocked slot true) := by
    simp [step, hopen]
  rw [run_of_outcome?_eq_none _ _ rfl, hstep]
  simp only [run_of_outcome?_eq_none _ _ (show (adding slot).outcome? = none from rfl),
    run_of_outcome?_eq_none _ _ (show (releasing slot).outcome? = none from rfl), step, run_done]
  obtain ⟨enabled, ⟨locked₁, store₁⟩, ⟨locked₂, store₂⟩, active, flushing, dropped⟩ := recorder
  cases slot with
  | one =>
    obtain rfl : locked₁ = false := hopen
    rfl
  | two =>
    obtain rfl : locked₂ = false := hopen
    rfl

/-- A recording that finds slot one locked goes on to slot two. -/
theorem value_run_of_locked (sample : Sample) (round : Nat)
    (hlocked : (recorder.slot .one).locked = true) :
    ((trying round .one).run sample recorder).value =
      ((trying round .two).run sample recorder).value := by
  have hstep : (trying round .one).step sample recorder = (trying round .two, recorder) := by
    simp [step, hlocked, afterMiss]
  rw [run_of_outcome?_eq_none _ _ rfl, hstep]

end Recording

/-! ## Settled recorders -/

namespace Recorder

variable {P : Type}

/-- **A recorder between calls**: the locks are as nobody's call needs them. -/
structure Settled (recorder : Recorder P) : Prop where
  flushing : recorder.flushing = false
  active_open : (recorder.slot recorder.active).locked = false
  other_locked : (recorder.slot recorder.active.other).locked = true

variable [ProfileStore P]

theorem settled_new (enabled : EnabledMetrics) (now : Instant) :
    (new enabled now : Recorder P).Settled :=
  ⟨rfl, rfl, rfl⟩

/-- What a flush takes out of the active store. -/
def taken (recorder : Recorder P) (finish now : Instant) : Flushed P :=
  let profile := (ProfileStore.reset now (recorder.slot recorder.active).store).1
  ⟨ProfileStore.startTime profile, finish, now, profile⟩

/-- The recorder after a flush: the slots have changed places, the one that is
active now with its start set and the other emptied. -/
def flipped (recorder : Recorder P) (now : Instant) : Recorder P :=
  let opened := (recorder.setStore recorder.active.other
    (ProfileStore.setStartTime now (recorder.slot recorder.active.other).store)).setLocked
      recorder.active.other false
  let emptied := (opened.setStore recorder.active
    (ProfileStore.reset now (recorder.slot recorder.active).store).2).setLocked recorder.active true
  { emptied with active := recorder.active.other }

/-- The recorder with a sample added to the active store. -/
def added (recorder : Recorder P) (sample : Sample) : Recorder P :=
  recorder.setStore recorder.active
    (ProfileStore.add sample (recorder.slot recorder.active).store)

namespace Settled

variable {recorder : Recorder P} (h : recorder.Settled)
include h

/-- **A recording adds its sample to the active store.** -/
theorem record_eq (sample : Sample) :
    (recorder.record sample).value = (.ok (), recorder.added sample) := by
  cases hactive : recorder.active with
  | one =>
    have hopen : (recorder.slot .one).locked = false := hactive ▸ h.active_open
    rw [record, Recording.start, Recording.value_run_of_open _ _ hopen, Recorder.added, hactive]
  | two =>
    have hopen : (recorder.slot .two).locked = false := hactive ▸ h.active_open
    have hlocked : (recorder.slot .one).locked = true := by
      have := h.other_locked
      rwa [hactive] at this
    rw [record, Recording.start, Recording.value_run_of_locked _ _ hlocked,
      Recording.value_run_of_open _ _ hopen, Recorder.added, hactive]

/-- **A flush takes the active store without waiting.** -/
theorem flush?_eq (finish now : Instant) :
    (recorder.flush? finish now).map Logged.value =
      some (recorder.taken finish now, recorder.flipped now) := by
  obtain ⟨enabled, ⟨locked₁, store₁⟩, ⟨locked₂, store₂⟩, active, flushing, dropped⟩ := recorder
  obtain ⟨hflushing, hopen, -⟩ := h
  obtain rfl : flushing = false := hflushing
  cases active with
  | one =>
    obtain rfl : locked₁ = false := hopen
    rw [flush?]
    -- the eight steps, none of which has to wait, and the end
    iterate 9
      rw [Flush.run_eq]
      simp only [Flush.result?, Flush.step?, slot, setSlot, setLocked, setStore, SlotId.other,
        Bool.false_eq_true, if_false, Option.bind_some]
    rfl
  | two =>
    obtain rfl : locked₂ = false := hopen
    rw [flush?]
    iterate 9
      rw [Flush.run_eq]
      simp only [Flush.result?, Flush.step?, slot, setSlot, setLocked, setStore, SlotId.other,
        Bool.false_eq_true, if_false, Option.bind_some]
    rfl

/-- A recording leaves the recorder settled. -/
theorem added (sample : Sample) : (recorder.added sample).Settled := by
  obtain ⟨hflushing, hopen, hlocked⟩ := h
  obtain ⟨enabled, one, two, active, flushing, dropped⟩ := recorder
  cases active <;> exact ⟨hflushing, hopen, hlocked⟩

/-- And so does a flush, with the other slot active. -/
theorem flipped (now : Instant) : (recorder.flipped now).Settled := by
  obtain ⟨hflushing, hopen, hlocked⟩ := h
  obtain ⟨enabled, one, two, active, flushing, dropped⟩ := recorder
  cases active <;> exact ⟨hflushing, rfl, rfl⟩

end Settled

end Recorder

end StackProfiler
