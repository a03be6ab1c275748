import StackProfiler.Proofs.Recorder.Watched
/-!
# Recorders — between calls

Whatever is called on a recorder, one call after the other, it is left steady
(`Watched.Steady`): one of the two slots is locked, the active slot is the other
one, and the store behind the lock is empty. So no call finds a lock taken that it
needs.
-/

namespace StackProfiler

/-! ## The locks of a settled recorder -/

namespace Recorder.Settled

variable {P : Type} {recorder : Recorder P} (h : recorder.Settled)
include h

/-- **The active slot is the one that is not locked.** -/
theorem active_iff (id : SlotId) : recorder.active = id ↔ (recorder.slot id).locked = false := by
  constructor
  · rintro rfl
    exact h.active_open
  · intro hfree
    by_contra hne
    rw [SlotId.eq_other_of_ne (Ne.symm hne), h.other_locked] at hfree
    cases hfree

/-- The one that is locked is held back. -/
theorem eq_other_of_locked {id : SlotId} (hlocked : (recorder.slot id).locked = true) :
    id = recorder.active.other := by
  refine SlotId.eq_other_of_ne fun hactive => ?_
  rw [(h.active_iff id).1 hactive.symm] at hlocked
  cases hlocked

/-- Just one of the two slots is locked. -/
theorem locked_one_ne_two : (recorder.slot .one).locked ≠ (recorder.slot .two).locked := by
  intro hsame
  -- else both would be active, or none
  have hboth : recorder.active = .one ↔ recorder.active = .two := by
    rw [h.active_iff, h.active_iff, hsame]
  cases hactive : recorder.active <;> simp [hactive] at hboth

variable [ProfileStore P]

/-- **A recording stays in its first round.** -/
theorem round_eq_zero {sample : Sample} {visit : Recording × Recorder P}
    (hvisit : visit ∈ Recording.start.visits sample recorder) {round : Nat} {slot : SlotId}
    (htrying : visit.1 = .trying round slot) : round = 0 := by
  have hmem := List.mem_map_of_mem (f := Prod.fst) hvisit
  rw [h.visits_record sample, htrying] at hmem
  cases hactive : recorder.active <;> rw [hactive] at hmem <;> simp at hmem
  · exact hmem.1
  · exact hmem.elim And.left And.left

/-- **A flush that takes its lock finds it free**: it is that of the slot that was active. -/
theorem lock_free {finish now : Instant} {flushed : Logged (Flushed P × Recorder P)}
    (hflushed : recorder.flush? finish now = some flushed) {visit : Flush P × Recorder P}
    (hvisit : visit ∈ Flush.entering.visits finish now recorder) {old : SlotId}
    {moment : Instant} (hlocking : visit.1 = .locking old moment) :
    old = recorder.active ∧ (visit.2.slot old).locked = false := by
  have hmem := List.mem_map_of_mem (f := Prod.fst) hvisit
  rw [h.visits_flush finish now, hlocking] at hmem
  have hold : old = recorder.active ∧ moment = now := by simpa using hmem
  refine ⟨hold.1, ?_⟩
  -- it could not make this step if the lock were taken
  have hstep := Flush.goesOn_of_run hflushed visit hvisit
  rw [hlocking] at hstep
  cases hlocked : (visit.2.slot old).locked with
  | false => rfl
  | true => simp [Flush.step?, hlocked] at hstep

end Recorder.Settled

/-! ## Between calls -/

namespace Watched

variable {P : Type} [ProfileStore P]

/-- **A recorder between calls**, and what the next call finds. -/
structure Steady (watched : Watched P) : Prop where
  /-- Of the two slots one is locked. -/
  one_locked : (watched.recorder.slot .one).locked ≠ (watched.recorder.slot .two).locked
  /-- The active slot is the one that is not. -/
  active_iff : ∀ id, watched.recorder.active = id ↔ (watched.recorder.slot id).locked = false
  /-- To the store behind the lock nothing has been added since it was made or last
  reset. -/
  spare : ∀ id, (watched.recorder.slot id).locked = true → watched.history.added id = []
  /-- The stores are what they have been told. -/
  faithful : watched.Faithful
  /-- No sample has been dropped. -/
  dropped_eq : watched.recorder.dropped = 0
  /-- A sample is recorded, and a slot for it is found in the first round. -/
  records : ∀ sample, (watched.recorder.record sample).value.1 = .ok () ∧
    ∀ visit ∈ Recording.start.visits sample watched.recorder,
      ∀ round slot, visit.1 = .trying round slot → round = 0
  /-- A flush comes to its end, waits nowhere, and finds the lock of the slot that
  was active free. -/
  flushes : ∀ finish now, (watched.recorder.flush? finish now).isSome ∧
    ∀ visit ∈ Flush.entering.visits finish now watched.recorder,
      (visit.1.step? finish now visit.2).isSome ∧
      ∀ old moment, visit.1 = .locking old moment →
        old = watched.recorder.active ∧ (visit.2.slot old).locked = false

/-- What keeps a settled recorder steady: the store held back is empty, and no
sample has been dropped. -/
structure Spared (watched : Watched P) : Prop where
  spare : watched.history.added watched.recorder.active.other = []
  faithful : watched.Faithful
  dropped_eq : watched.recorder.dropped = 0

theorem spared_new (enabled : EnabledMetrics) (now : Instant) :
    (new enabled now : Watched P).Spared where
  spare := rfl
  faithful := faithful_new enabled now
  dropped_eq := rfl

/-- **Every call spares the store that is held back then**: a recording adds to the
other one, and a flush holds back the one that it has reset. -/
theorem Spared.afterCall {watched : Watched P} (h : watched.Spared)
    (hsettled : watched.recorder.Settled) (call : RecorderCall) :
    (watched.afterCall call).Spared := by
  have hfaithful : (watched.afterCall call).Faithful :=
    h.faithful.call? (call?_of_settled hsettled call).1
  cases call with
  | record sample =>
    refine ⟨?_, hfaithful, ?_⟩
    · have hactive : (watched.recorder.added sample).active = watched.recorder.active :=
        watched.recorder.active_setSlot ..
      show (watched.heard _).added (watched.recorder.added sample).active.other = []
      rw [hactive]
      exact (History.added_concat_of_ne (SlotId.ne_other _)).trans h.spare
    · exact (Recorder.dropped_setSlot ..).trans h.dropped_eq
  | flush finish now =>
    refine ⟨?_, hfaithful, ?_⟩
    · -- the last that the store now held back has been told is to reset
      have hlast : (watched.flipped now).history =
          (watched.heard [(watched.recorder.active.other, .setStartTime now)]) ++
            [(watched.recorder.active, .call (.reset now))] := by
        simp [flipped, heard]
      show (watched.flipped now).history.added watched.recorder.active.other.other = []
      rw [SlotId.other_other, hlast, History.added_concat_self]
      rfl
    · show (watched.recorder.flipped now).dropped = 0
      rw [Recorder.flipped]
      simpa only [Recorder.setLocked, Recorder.setStore, Recorder.dropped_setSlot] using
        h.dropped_eq
  | resetAfterFork now => exact spared_new _ _

/-- **What is spared and settled is steady.** -/
theorem Spared.steady {watched : Watched P} (h : watched.Spared)
    (hsettled : watched.recorder.Settled) : watched.Steady where
  one_locked := hsettled.locked_one_ne_two
  active_iff := hsettled.active_iff
  spare := by
    intro id hlocked
    rw [hsettled.eq_other_of_locked hlocked]
    exact h.spare
  faithful := h.faithful
  dropped_eq := h.dropped_eq
  records := by
    intro sample
    refine ⟨by rw [hsettled.record_eq sample], ?_⟩
    intro visit hvisit round slot htrying
    exact hsettled.round_eq_zero hvisit htrying
  flushes := by
    intro finish now
    obtain ⟨flushed, hflushed, -⟩ := Option.map_eq_some_iff.1 (hsettled.flush?_eq finish now)
    refine ⟨by rw [hflushed]; rfl, ?_⟩
    intro visit hvisit
    refine ⟨Flush.goesOn_of_run hflushed visit hvisit, ?_⟩
    intro old moment hlocking
    exact hsettled.lock_free hflushed hvisit hlocking

/-- **Whatever is called on a new recorder**, one call after the other, no call
waits for ever, no sample is refused, and the recorder is left steady. -/
theorem calls?_steady (enabled : EnabledMetrics) (now : Instant) (calls : List RecorderCall) :
    ∃ replies watched, (new enabled now : Watched P).calls? calls = some (replies, watched) ∧
      (∀ outcome, .recorded outcome ∈ replies → outcome = .ok ()) ∧ watched.Steady := by
  obtain ⟨replies, watched, hcalls, hok, hsettled, hspared⟩ :=
    calls?_induction (P := P) (motive := Spared) enabled now spared_new
      (fun _ call hsettled h => h.afterCall hsettled call) calls
  exact ⟨replies, watched, hcalls, hok, hspared.steady hsettled⟩

end Watched

end StackProfiler
