import StackProfiler.Proofs.Profile.Aggregation
import StackProfiler.Proofs.Profile.History
import StackProfiler.Proofs.Recorder.Delivery
/-!
# Recorders — what the profiles hold

A step changes the stores by the call it makes on one of them and by nothing else
(`stores_recording`, `stores_flush`). So at all times the profile in a slot has
gathered the samples that the slot holds, and the profile of a flush those that
the flush has taken (`Traffic.Filled`), and they can be read back from it
(`Filled.comprises_slot`, `Filled.comprises_tookBy`).
-/

namespace StackProfiler

namespace Traffic

/-! ## Stores change by calls only -/

/-- The stores after a call on one of them. -/
def storesAfter {P : Type} [ProfileStore P] (stores : SlotId → P) :
    Option (SlotId × StoreCall) → SlotId → P
  | some (slot, storeCall) => Function.update stores slot (storeCall.applyTo (stores slot))
  | none => stores

section Stores

variable {P : Type}

/-- The stores of a recorder. -/
def stores (recorder : Recorder P) (id : SlotId) : P := (recorder.slot id).store

/-- Locks are not stores. -/
@[simp]
theorem stores_setLocked (recorder : Recorder P) (slot : SlotId) (locked : Bool) :
    stores (recorder.setLocked slot locked) = stores recorder := by
  funext id
  rw [stores, stores, Recorder.setLocked, Recorder.slot_setSlot]
  by_cases hid : id = slot
  · rw [if_pos hid, hid]
  · rw [if_neg hid]

@[simp]
theorem stores_setStore (recorder : Recorder P) (slot : SlotId) (store : P) :
    stores (recorder.setStore slot store) = Function.update (stores recorder) slot store := by
  funext id
  rw [stores, Recorder.setStore, Recorder.slot_setSlot]
  by_cases hid : id = slot
  · subst hid
    rw [if_pos rfl, Function.update_self]
  · rw [if_neg hid, Function.update_of_ne hid]
    rfl

variable [ProfileStore P]

/-- **A step of a recording** changes the stores by its call. -/
theorem stores_recording (sample : Sample) (recorder : Recorder P) (recording : Recording) :
    stores (recording.step sample recorder).2 =
      storesAfter (stores recorder) (recording.storeCall? sample) := by
  cases recording with
  | trying round slot =>
    simp only [Recording.step]
    split
    · rfl
    · exact stores_setLocked ..
  | adding slot => exact stores_setStore ..
  | releasing slot => exact stores_setLocked ..
  | dropping =>
    funext id
    cases id <;> rfl
  | done outcome => rfl

/-- **A step of a flush** changes the stores by its call. -/
theorem stores_flush {finish now : Instant} {recorder recorder' : Recorder P} {flush next : Flush P}
    (h : flush.step? finish now recorder = some (next, recorder')) :
    stores recorder' = storesAfter (stores recorder) flush.storeCall? := by
  cases Flush.makes_of_step? h with
  | enter hfree =>
    funext id
    cases id <;> rfl
  | look => rfl
  | stamp old moment => exact stores_setStore ..
  | unlock old moment => exact stores_setLocked ..
  | lock old moment hfree => exact stores_setLocked ..
  | switch old moment =>
    funext id
    cases id <;> rfl
  | take old moment => exact stores_setStore ..
  | leave flushed =>
    funext id
    cases id <;> rfl

end Stores

/-! ## Profiles -/

/-- **Each store has gathered what its slot holds.** -/
def Holds (valueTypes : List Metric) (stores : SlotId → Profile)
    (held : SlotId → List Numbered) : Prop :=
  ∀ id, ∃ start, stores id = Profile.gathered valueTypes start ((held id).map Numbered.sample)

namespace Holds

variable {valueTypes : List Metric} {stores : SlotId → Profile} {held : SlotId → List Numbered}
variable (h : Holds valueTypes stores held)
include h

/-- A recording adds to the profile what it adds to the slot. -/
theorem recording (sample : Sample) (number : Nat) (recording : Recording) :
    Holds valueTypes (storesAfter stores (recording.storeCall? sample))
      (stored held number (recording.storeCall? sample)) := by
  cases recording with
  | adding slot =>
    intro id
    show ∃ start, Function.update stores slot _ id =
      Profile.gathered valueTypes start ((Function.update held slot _ id).map Numbered.sample)
    by_cases hid : id = slot
    · subst hid
      obtain ⟨start, hstart⟩ := h id
      refine ⟨start, ?_⟩
      rw [Function.update_self, Function.update_self, List.map_append, List.map_singleton, hstart,
        Profile.applyTo_gathered]
      rfl
    · rw [Function.update_of_ne hid, Function.update_of_ne hid]
      exact h id
  | _ => exact h

/-- A flush stamps one profile, and empties the other with its slot. -/
theorem flush (flush : Flush Profile) :
    Holds valueTypes (storesAfter stores flush.storeCall?) (emptied held flush.storeCall?) := by
  cases flush with
  | stamping old now =>
    intro id
    show ∃ start, Function.update stores old.other _ id = _
    by_cases hid : id = old.other
    · subst hid
      obtain ⟨start, hstart⟩ := h old.other
      refine ⟨now, ?_⟩
      rw [Function.update_self, hstart, Profile.applyTo_gathered]
      rfl
    · rw [Function.update_of_ne hid]
      exact h id
  | taking old now =>
    intro id
    show ∃ start, Function.update stores old _ id =
      Profile.gathered valueTypes start ((Function.update held old [] id).map Numbered.sample)
    by_cases hid : id = old
    · subst hid
      obtain ⟨start, hstart⟩ := h id
      refine ⟨now, ?_⟩
      rw [Function.update_self, Function.update_self, hstart, Profile.applyTo_gathered]
      rfl
    · rw [Function.update_of_ne hid, Function.update_of_ne hid]
      exact h id
  | _ => exact h

end Holds

/-- **Every profile holds its samples**: those in the slots and those that flushes
have taken. -/
structure Filled (traffic : Traffic Profile) (valueTypes : List Metric) : Prop where
  holds : Holds valueTypes (stores traffic.recorder) traffic.held
  flushed_eq : ∀ (i : Nat) (call : FlushCall Profile), traffic.flushes[i]? = some call →
    ∀ flushed, call.phase.flushed? = some flushed → flushed.finish = call.finish ∧
      flushed.profile =
        Profile.gathered valueTypes flushed.start (call.took.map Numbered.sample)

namespace Filled

variable {traffic : Traffic Profile} {valueTypes : List Metric} (h : traffic.Filled valueTypes)
include h

/-- **The samples in a slot** are what its profile comprises. -/
theorem comprises_slot (id : SlotId) : ∃ start,
    (traffic.recorder.slot id).store.Comprises valueTypes start
      ((traffic.held id).map Numbered.sample) := by
  obtain ⟨start, hstore⟩ := h.holds id
  exact ⟨start, Profile.comprises_of_eq hstore⟩

/-- **What a flush has taken** is what its profile comprises. -/
theorem comprises_tookBy {i : Nat} {call : FlushCall Profile} {flushed : Flushed Profile}
    (hcall : traffic.flushes[i]? = some call) (hflushed : call.phase.flushed? = some flushed) :
    flushed.profile.Comprises valueTypes flushed.start
      ((traffic.tookBy i).map Numbered.sample) := by
  have htook : traffic.tookBy i = call.took := by
    rw [tookBy, hcall]
    rfl
  rw [htook]
  exact Profile.comprises_of_eq (h.flushed_eq i call hcall flushed hflushed).2

/-- The recording may make a step. -/
theorem recordStep (sample : Sample) (recording : Recording) :
    (traffic.recordStep sample recording).Filled valueTypes where
  holds := by
    show Holds valueTypes (stores (recording.step sample traffic.recorder).2) _
    rw [stores_recording]
    exact h.holds.recording sample _ recording
  flushed_eq := h.flushed_eq

/-- A flush may be asked for. -/
theorem flush (finish : Instant) (since : Nat) :
    { traffic with flushes := traffic.flushes ++ [FlushCall.called finish since] }.Filled
      valueTypes where
  holds := h.holds
  flushed_eq := by
    refine of_getElem?_concat h.flushed_eq ?_
    intro flushed hflushed
    cases hflushed

/-- What a flush takes out is the profile of its slot. -/
theorem flushed_flushStep (hdelivered : traffic.Delivered) {i : Nat} {call : FlushCall Profile}
    (hcall : traffic.flushes[i]? = some call) {now : Instant} {phase : Flush Profile}
    {recorder : Recorder Profile}
    (hstep : call.phase.step? call.finish now traffic.recorder = some (phase, recorder))
    {flushed : Flushed Profile} (hflushed : phase.flushed? = some flushed) :
    flushed.finish = call.finish ∧ flushed.profile = Profile.gathered valueTypes flushed.start
      ((call.stepped traffic.held phase).took.map Numbered.sample) := by
  have htook : call.phase.flushed? = none → call.took = [] := hdelivered.took_eq_nil i call hcall
  rw [FlushCall.stepped]
  rcases step?_shape hstep with ⟨-, rfl⟩ | ⟨-, rfl⟩ | ⟨-, -, -, hnone, -⟩ |
    ⟨old, now', flushed', htaking, rfl⟩ | ⟨flushed', hleaving, rfl⟩
  · cases hflushed
  · cases hflushed
  · rw [hnone] at hflushed
    cases hflushed
  -- it takes out what the store of the old slot has gathered
  · rw [htaking] at hstep htook ⊢
    obtain ⟨hnext, -⟩ := Prod.mk.inj (Option.some.inj hstep)
    obtain rfl := Flush.leaving.inj hnext
    obtain rfl := Option.some.inj hflushed
    obtain ⟨start, hstart⟩ := h.holds old
    rw [stores] at hstart
    rw [htook rfl]
    refine ⟨rfl, ?_⟩
    show (traffic.recorder.slot old).store = Profile.gathered valueTypes
      (traffic.recorder.slot old).store.startTime ((traffic.held old).map Numbered.sample)
    rw [hstart, Profile.startTime_gathered]
  · have hfound : found traffic.held call.phase.storeCall? = [] := by
      rw [hleaving]
      rfl
    rw [hfound, List.append_nil]
    obtain rfl := Option.some.inj hflushed
    exact h.flushed_eq i call hcall _ (by rw [hleaving]; rfl)

/-- A flush may make a step. -/
theorem flushStep (hdelivered : traffic.Delivered) {i : Nat} {call : FlushCall Profile}
    (hcall : traffic.flushes[i]? = some call) {now : Instant} {phase : Flush Profile}
    {recorder : Recorder Profile}
    (hstep : call.phase.step? call.finish now traffic.recorder = some (phase, recorder)) :
    (traffic.flushStep i call phase recorder).Filled valueTypes where
  holds := by
    show Holds valueTypes (stores recorder) _
    rw [stores_flush hstep]
    exact h.holds.flush call.phase
  flushed_eq := by
    refine of_flushes_flushStep hcall ?_ fun j other _ => h.flushed_eq j other
    exact fun flushed hflushed => h.flushed_flushStep hdelivered hcall hstep hflushed

/-- **Every step keeps the profiles filled.** -/
theorem step (hdelivered : traffic.Delivered) {traffic' : Traffic Profile} {action : Action}
    (hstep : traffic.step? action = some traffic') : traffic'.Filled valueTypes := by
  rcases step?_cases hstep with ⟨sample, -, -, rfl⟩ | ⟨sample, recording, -, -, rfl⟩ |
    ⟨finish, -, rfl⟩ | ⟨i, now, call, phase, recorder, -, hcall, hphase, rfl⟩
  · exact ⟨h.holds, h.flushed_eq⟩
  · exact h.recordStep sample recording
  · exact h.flush finish _
  · exact h.flushStep hdelivered hcall hphase

end Filled

theorem filled_new (enabled : EnabledMetrics) (now : Instant) :
    (new enabled now : Traffic Profile).Filled enabled.valueTypes where
  holds := by
    intro id
    cases id <;> exact ⟨now, rfl⟩
  flushed_eq := by
    intro i call hcall
    cases hcall

/-- **Every profile holds its samples at all times.** -/
theorem filled_after (enabled : EnabledMetrics) (now : Instant) (actions : List Action) :
    ((new enabled now).after actions).Filled enabled.valueTypes :=
  after_induction
    (motive := fun traffic : Traffic Profile => traffic.Filled enabled.valueTypes)
    (filled_new enabled now)
    (fun actions _ _ h hstep => h.step (delivered_after enabled now actions) hstep) actions

end Traffic

end StackProfiler
