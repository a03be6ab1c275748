import StackProfiler.Proofs.Recorder.Traffic
/-!
# Recorders — one flush at a time

Of all flushes at most one is inside, and the locks are as `Recorder.Guarded`
says for it and for the recording that is under way (`Traffic.Orderly`). So no
two calls are ever at the same store, and a flush that is inside waits only for a
recording that is in the old slot.
-/

namespace StackProfiler

/-- The slot whose store is empty while a flush stands here: the one held back,
except where that is the old one and not yet emptied. -/
def Flush.spare? {P : Type} (active : SlotId) : Flush P → Option SlotId
  | .entering | .looking | .leaving _ | .done _ => some active.other
  | .stamping old _ | .opening old _ => some old.other
  | .locking .. | .switching .. | .taking .. => none

/-- A slot whose store is empty is held back. -/
theorem Flush.reserved?_of_spare? {P : Type} {turn : Flush P} {active id : SlotId}
    (h : turn.spare? active = some id) : turn.reserved? active = some id := by
  cases turn <;> first | exact h | cases h

/-- Recordings do not choose the active slot. -/
theorem Recording.active_step {P : Type} [ProfileStore P] (sample : Sample)
    (recorder : Recorder P) (recording : Recording) :
    (recording.step sample recorder).2.active = recorder.active := by
  cases recording with
  | trying round slot =>
    simp only [step]
    split
    · rfl
    · exact recorder.active_setSlot ..
  | adding slot => exact recorder.active_setSlot ..
  | releasing slot => exact recorder.active_setSlot ..
  | dropping => rfl
  | done outcome => rfl

namespace Traffic

variable {P : Type}

/-- **A traffic in which it is the turn of a flush.** -/
structure Poised (traffic : Traffic P) (turn : Flush P) : Prop where
  guarded : traffic.recorder.Guarded traffic.holding turn
  spare_empty : ∀ id, turn.spare? traffic.recorder.active = some id → traffic.held id = []

/-- **At most one flush is inside**, and the traffic is poised for it. -/
structure Orderly (traffic : Traffic P) : Prop where
  alone : ∀ (i j : Nat) (call other : FlushCall P), traffic.flushes[i]? = some call →
    traffic.flushes[j]? = some other → call.phase.inside = true → other.phase.inside = true →
    i = j
  poised_of_inside : ∀ (i : Nat) (call : FlushCall P), traffic.flushes[i]? = some call →
    call.phase.inside = true → traffic.Poised call.phase
  poised_of_outside : (∀ (i : Nat) (call : FlushCall P), traffic.flushes[i]? = some call →
    call.phase.inside = false) → traffic.Poised .entering

/-! ## Steps for which it is the turn -/

namespace Poised

variable {traffic : Traffic P} {turn : Flush P} (h : traffic.Poised turn)
include h

/-- A recording may begin. -/
theorem record (sample : Sample) (hrecording : traffic.recording = none) :
    { traffic with recording := some (sample, .start) }.Poised turn where
  guarded := by
    have hguarded := h.guarded
    rw [holding, hrecording] at hguarded
    exact hguarded
  spare_empty := h.spare_empty

variable [ProfileStore P]

/-- The recording may make a step. -/
theorem recordStep {sample : Sample} {recording : Recording}
    (hrecording : traffic.recording = some (sample, recording)) :
    (traffic.recordStep sample recording).Poised turn where
  guarded := by
    have hslot : recording.slot? = traffic.holding := by
      rw [holding, hrecording]
      rfl
    rw [holding_recordStep]
    exact h.guarded.recording hslot sample
  spare_empty := by
    intro id hid
    have hspare : turn.spare? traffic.recorder.active = some id := by
      rw [← hid]
      exact congrArg turn.spare? (Recording.active_step ..).symm
    cases recording with
    | adding slot =>
      -- the recording is not in the slot that is held back
      have hne : id ≠ slot := by
        rintro rfl
        refine h.guarded.apart id ?_ (Flush.reserved?_of_spare? hspare)
        rw [holding, hrecording]
        rfl
      show Function.update traffic.held slot _ id = []
      rw [Function.update_of_ne hne]
      exact h.spare_empty id hspare
    | _ => exact h.spare_empty id hspare

/-- The flush may make a step. The store that it empties is the one that is held
back from then on. -/
theorem flushStep {i : Nat} {call : FlushCall P} (hturn : call.phase = turn) {now : Instant}
    {phase : Flush P} {recorder : Recorder P}
    (hstep : call.phase.step? call.finish now traffic.recorder = some (phase, recorder)) :
    (traffic.flushStep i call phase recorder).Poised phase where
  guarded := by
    rw [hturn] at hstep
    exact h.guarded.flush hstep
  spare_empty := by
    intro id hid
    obtain ⟨hguarded, hempty⟩ := h
    obtain ⟨finish, since, phase', took⟩ := call
    subst hturn
    cases Flush.makes_of_step? hstep with
    | enter hfree => exact hempty id hid
    | look => exact hempty id hid
    | stamp old moment => exact hempty id hid
    | unlock old moment => cases hid
    | lock old moment hfree => cases hid
    | switch old moment => cases hid
    | take old moment =>
      have hactive : traffic.recorder.active = old.other := hguarded.remembers
      have hold : old = id := by
        have hspare : some (traffic.recorder.setStore old _).active.other = some id := hid
        rw [Recorder.setStore, Recorder.active_setSlot, hactive, SlotId.other_other] at hspare
        exact Option.some.inj hspare
      subst hold
      exact Function.update_self old [] traffic.held
    | leave flushed => exact hempty id hid

end Poised

/-! ## Steps of any call -/

namespace Orderly

variable {traffic : Traffic P} (h : traffic.Orderly)
include h

/-- It is always somebody's turn, or nobody's. -/
theorem exists_poised : ∃ turn, traffic.Poised turn := by
  by_cases hinside : ∃ (i : Nat) (call : FlushCall P),
      traffic.flushes[i]? = some call ∧ call.phase.inside = true
  · obtain ⟨i, call, hcall, hin⟩ := hinside
    exact ⟨call.phase, h.poised_of_inside i call hcall hin⟩
  · refine ⟨.entering, h.poised_of_outside fun i call hcall => ?_⟩
    exact Bool.eq_false_iff.2 fun hin => hinside ⟨i, call, hcall, hin⟩

/-- A recording may begin. -/
theorem record (sample : Sample) (hrecording : traffic.recording = none) :
    { traffic with recording := some (sample, .start) }.Orderly where
  alone := h.alone
  poised_of_inside := fun i call hcall hin =>
    (h.poised_of_inside i call hcall hin).record sample hrecording
  poised_of_outside := fun hout => (h.poised_of_outside hout).record sample hrecording

/-- A flush may be asked for: it begins outside. -/
theorem flush (finish : Instant) (since : Nat) :
    { traffic with flushes := traffic.flushes ++ [FlushCall.called finish since] }.Orderly := by
  -- the new flush is outside, so whoever is inside was there before
  have hold : ∀ (i : Nat) (call : FlushCall P),
      (traffic.flushes ++ [.called finish since])[i]? = some call →
        call.phase.inside = true → traffic.flushes[i]? = some call := by
    intro i call hcall hin
    rcases getElem?_concat_eq_some_iff.1 hcall with hcall | ⟨-, rfl⟩
    · exact hcall
    · cases hin
  refine ⟨?_, ?_, ?_⟩
  · intro i j call other hcall hother hin hin'
    exact h.alone i j call other (hold i call hcall hin) (hold j other hother hin') hin hin'
  · intro i call hcall hin
    have hpoised := h.poised_of_inside i call (hold i call hcall hin) hin
    exact ⟨hpoised.guarded, hpoised.spare_empty⟩
  · intro hout
    have hpoised := h.poised_of_outside fun i call hcall =>
      hout i call (getElem?_concat_eq_some_iff.2 (.inl hcall))
    exact ⟨hpoised.guarded, hpoised.spare_empty⟩

variable [ProfileStore P]

/-- **It is the turn of whichever flush can make a step**: one that is about to
enter finds nobody inside. -/
theorem poised_of_step {i : Nat} {call : FlushCall P} (hcall : traffic.flushes[i]? = some call)
    {now : Instant} {next : Flush P × Recorder P}
    (hstep : call.phase.step? call.finish now traffic.recorder = some next) :
    traffic.Poised call.phase := by
  by_cases hin : call.phase.inside = true
  · exact h.poised_of_inside i call hcall hin
  · have hphase : call.phase = .entering :=
      call.phase.entering_or_inside_or_done.resolve_right fun hrest =>
        hrest.elim hin (Flush.result?_of_step? hstep)
    have hfree : traffic.recorder.flushing = false := by
      rw [hphase, Flush.step?] at hstep
      split at hstep
      · cases hstep
      · next hflushing => exact Bool.eq_false_iff.2 hflushing
    rw [hphase]
    refine h.poised_of_outside fun j other hother => Bool.eq_false_iff.2 fun hin' => ?_
    -- a flush inside would hold the lock that was found free
    have hflushing := (h.poised_of_inside j other hother hin').guarded.flushing
    rw [hfree, hin'] at hflushing
    cases hflushing

/-- **The one that makes a step is alone inside**, so every other is outside and
stays there. -/
theorem outside_of_step {i j : Nat} {call other : FlushCall P}
    (hcall : traffic.flushes[i]? = some call) {now : Instant} {next : Flush P × Recorder P}
    (hstep : call.phase.step? call.finish now traffic.recorder = some next)
    (hother : traffic.flushes[j]? = some other) (hne : j ≠ i) : other.phase.inside = false := by
  refine Bool.eq_false_iff.2 fun hin => ?_
  have hflushing := (h.poised_of_step hcall hstep).guarded.flushing
  rw [(h.poised_of_inside j other hother hin).guarded.flushing, hin] at hflushing
  exact hne (h.alone j i other call hother hcall hin hflushing.symm)

/-- The recording may make a step. -/
theorem recordStep {sample : Sample} {recording : Recording}
    (hrecording : traffic.recording = some (sample, recording)) :
    (traffic.recordStep sample recording).Orderly where
  alone := h.alone
  poised_of_inside := fun i call hcall hin =>
    (h.poised_of_inside i call hcall hin).recordStep hrecording
  poised_of_outside := fun hout => (h.poised_of_outside hout).recordStep hrecording

/-- A flush may make a step. -/
theorem flushStep {i : Nat} {call : FlushCall P} (hcall : traffic.flushes[i]? = some call)
    {now : Instant} {phase : Flush P} {recorder : Recorder P}
    (hstep : call.phase.step? call.finish now traffic.recorder = some (phase, recorder)) :
    (traffic.flushStep i call phase recorder).Orderly := by
  have hpoised := (h.poised_of_step hcall hstep).flushStep (i := i) rfl hstep
  -- after the step nobody else is inside
  have honly : ∀ (j : Nat) (other : FlushCall P),
      (traffic.flushStep i call phase recorder).flushes[j]? = some other →
        other.phase.inside = true → j = i ∧ other.phase = phase := by
    refine of_flushes_flushStep hcall (fun _ => ⟨rfl, rfl⟩) fun j other hji hother hin => ?_
    rw [h.outside_of_step hcall hstep hother hji] at hin
    cases hin
  refine ⟨?_, ?_, ?_⟩
  · intro j k other other' hother hother' hin hin'
    rw [(honly j other hother hin).1, (honly k other' hother' hin').1]
  · intro j other hother hin
    rw [(honly j other hother hin).2]
    exact hpoised
  · intro hout
    have hphase : phase.inside = false := hout i (call.stepped traffic.held phase) (by
      rw [flushes_flushStep hcall, if_pos rfl])
    refine ⟨hpoised.guarded.congr_outside hphase rfl, ?_⟩
    -- a flush that is outside again has let go of every slot
    intro id hid
    refine hpoised.spare_empty id ?_
    cases phase <;> first | exact hid | cases hphase

/-- **Every step leaves the traffic orderly.** -/
theorem step {traffic' : Traffic P} {action : Action}
    (hstep : traffic.step? action = some traffic') : traffic'.Orderly := by
  rcases step?_cases hstep with ⟨sample, -, hrecording, rfl⟩ |
    ⟨sample, recording, -, hrecording, rfl⟩ | ⟨finish, -, rfl⟩ |
    ⟨i, now, call, phase, recorder, -, hcall, hphase, rfl⟩
  · exact h.record sample hrecording
  · exact h.recordStep hrecording
  · exact h.flush finish _
  · exact h.flushStep hcall hphase

end Orderly

theorem orderly_new [ProfileStore P] (enabled : EnabledMetrics) (now : Instant) :
    (new enabled now : Traffic P).Orderly where
  alone := by
    intro i j call other hcall
    cases hcall
  poised_of_inside := by
    intro i call hcall
    cases hcall
  poised_of_outside := fun _ => ⟨Recorder.guarded_new enabled now, fun _ _ => rfl⟩

/-- **The traffic is orderly at all times.** -/
theorem orderly_after [ProfileStore P] (enabled : EnabledMetrics) (now : Instant)
    (actions : List Action) : ((new enabled now : Traffic P).after actions).Orderly :=
  after_induction (orderly_new enabled now) (fun _ _ _ h hstep => h.step hstep) actions

/-! ## Who is at which store, and who waits for whom -/

/-- A recording is at a store only in the slot it has locked. -/
theorem slot?_of_storeCall? {recording : Recording} {sample : Sample} {slot : SlotId}
    {storeCall : StoreCall} (h : recording.storeCall? sample = some (slot, storeCall)) :
    recording.slot? = some slot := by
  cases recording with
  | adding slot' =>
    obtain ⟨rfl, -⟩ := Prod.mk.inj (Option.some.inj h)
    rfl
  | _ => cases h

/-- A flush is at a store only inside and where it is held back. -/
theorem reserved?_of_storeCall? {flush : Flush P} {slot : SlotId} {storeCall : StoreCall}
    (h : flush.storeCall? = some (slot, storeCall)) (active : SlotId) :
    flush.inside = true ∧ flush.reserved? active = some slot := by
  cases flush with
  | stamping old now =>
    obtain ⟨rfl, -⟩ := Prod.mk.inj (Option.some.inj h)
    exact ⟨rfl, rfl⟩
  | taking old now =>
    obtain ⟨rfl, -⟩ := Prod.mk.inj (Option.some.inj h)
    exact ⟨rfl, rfl⟩
  | _ => cases h

namespace Orderly

variable {traffic : Traffic P} (h : traffic.Orderly)
include h

/-- The recording is at a store only under its lock. -/
theorem locked_of_recording {sample : Sample} {recording : Recording} {slot : SlotId}
    {storeCall : StoreCall} (hrecording : traffic.recording = some (sample, recording))
    (hcall : recording.storeCall? sample = some (slot, storeCall)) :
    (traffic.recorder.slot slot).locked = true := by
  obtain ⟨turn, hpoised⟩ := h.exists_poised
  refine (hpoised.guarded.locked_iff slot).2 (.inr ?_)
  rw [holding, hrecording]
  exact slot?_of_storeCall? hcall

/-- A flush is at a store only under its lock. -/
theorem locked_of_flush {i : Nat} {call : FlushCall P} {slot : SlotId} {storeCall : StoreCall}
    (hcall : traffic.flushes[i]? = some call)
    (hstore : call.phase.storeCall? = some (slot, storeCall)) :
    (traffic.recorder.slot slot).locked = true := by
  obtain ⟨hin, hreserved⟩ := reserved?_of_storeCall? hstore traffic.recorder.active
  exact ((h.poised_of_inside i call hcall hin).guarded.locked_iff slot).2 (.inl hreserved)

/-- **No flush is at the store at which the recording is.** -/
theorem recording_apart {sample : Sample} {recording : Recording} {slot : SlotId}
    {storeCall storeCall' : StoreCall} (hrecording : traffic.recording = some (sample, recording))
    (hstore : recording.storeCall? sample = some (slot, storeCall)) {i : Nat} {call : FlushCall P}
    (hcall : traffic.flushes[i]? = some call) :
    call.phase.storeCall? ≠ some (slot, storeCall') := by
  intro hstore'
  obtain ⟨hin, hreserved⟩ := reserved?_of_storeCall? hstore' traffic.recorder.active
  refine (h.poised_of_inside i call hcall hin).guarded.apart slot ?_ hreserved
  rw [holding, hrecording]
  exact slot?_of_storeCall? hstore

/-- **No two flushes are at stores.** -/
theorem flushes_apart {i j : Nat} {call other : FlushCall P}
    (hcall : traffic.flushes[i]? = some call) (hother : traffic.flushes[j]? = some other)
    (hstore : call.phase.storeCall?.isSome) (hstore' : other.phase.storeCall?.isSome) : i = j := by
  obtain ⟨⟨slot, storeCall⟩, hstore⟩ := Option.isSome_iff_exists.1 hstore
  obtain ⟨⟨slot', storeCall'⟩, hstore'⟩ := Option.isSome_iff_exists.1 hstore'
  exact h.alone i j call other hcall hother
    (reserved?_of_storeCall? hstore traffic.recorder.active).1
    (reserved?_of_storeCall? hstore' traffic.recorder.active).1

variable [ProfileStore P]

/-- **What a flush waits for**: to enter, for the flush that is inside; inside,
only for the recording that is in the old slot. -/
theorem step?_eq_none_iff {i : Nat} {call : FlushCall P} (hcall : traffic.flushes[i]? = some call)
    (now : Instant) :
    call.phase.step? call.finish now traffic.recorder = none ↔
      (call.phase = .entering ∧ ∃ (j : Nat) (other : FlushCall P),
        traffic.flushes[j]? = some other ∧ other.phase.inside = true) ∨
      (∃ old now', call.phase = .locking old now' ∧ traffic.holding = some old) ∨
      call.phase.result?.isSome := by
  cases hphase : call.phase with
  | entering =>
    simp only [Flush.step?, Flush.result?, true_and, reduceCtorEq, false_and, exists_false,
      Option.isSome_none, Bool.false_eq_true, or_false, ite_eq_left_iff]
    constructor
    · intro hflushing
      by_contra hnobody
      have hout := h.poised_of_outside fun j other hother =>
        Bool.eq_false_iff.2 fun hin => hnobody ⟨j, other, hother, hin⟩
      have hfree : traffic.recorder.flushing = false := hout.guarded.flushing
      exact hflushing (by rw [hfree]; exact Bool.false_ne_true)
    · rintro ⟨j, other, hother, hin⟩ hfree
      exact absurd ((h.poised_of_inside j other hother hin).guarded.flushing.trans hin) hfree
  | locking old now' =>
    -- a flush that is only locking holds nothing back, so the lock is the recording's
    have hlocked := (h.poised_of_inside i call hcall (by rw [hphase]; rfl)).guarded.locked_iff old
    rw [hphase] at hlocked
    simp only [Flush.reserved?, reduceCtorEq, false_or] at hlocked
    simp only [Flush.step?]
    constructor
    · intro hnone
      split at hnone
      · next htaken => exact .inr (.inl ⟨old, now', rfl, hlocked.1 htaken⟩)
      · cases hnone
    · rintro (⟨hentering, -⟩ | ⟨_, _, hlocking, hholding⟩ | hdone)
      · cases hentering
      · obtain ⟨rfl, rfl⟩ := Flush.locking.inj hlocking
        rw [if_pos (hlocked.2 hholding)]
      · cases hdone
  | done flushed => simp [Flush.step?, Flush.result?]
  | looking => simp [Flush.step?, Flush.result?]
  | stamping old now' => simp [Flush.step?, Flush.result?]
  | opening old now' => simp [Flush.step?, Flush.result?]
  | switching old now' => simp [Flush.step?, Flush.result?]
  | taking old now' => simp [Flush.step?, Flush.result?]
  | leaving flushed => simp [Flush.step?, Flush.result?]

end Orderly

end Traffic

end StackProfiler
