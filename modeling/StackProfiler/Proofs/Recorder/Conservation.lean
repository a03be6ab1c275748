import Mathlib.Data.List.Nodup
import Mathlib.Data.List.Perm.Basic
import StackProfiler.Proofs.Recorder.Turns
/-!
# Recorders — no sample is lost

However calls overlap, each sample that has been accepted is in one place, the
store of a slot or what one flush has taken, and no other sample is anywhere
(`Traffic.Accounted`).
-/

namespace StackProfiler

namespace Traffic

variable {P : Type}

/-! ## Where samples are -/

/-- Where a sample can be. -/
inductive Place
  | slot (id : SlotId)
  | flush (i : Nat)

/-- What a flush has taken; nothing, if it has not been called. -/
def tookBy (traffic : Traffic P) (i : Nat) : List Numbered :=
  traffic.flushes[i]?.elim [] FlushCall.took

/-- The samples at a place. -/
def samplesAt (traffic : Traffic P) : Place → List Numbered
  | .slot id => traffic.held id
  | .flush i => traffic.tookBy i

/-- The samples in the stores. -/
def inStores (held : SlotId → List Numbered) : List Numbered :=
  held .one ++ held .two

/-- All samples, place after place. -/
def everywhere (traffic : Traffic P) : List Numbered :=
  inStores traffic.held ++ traffic.flushes.flatMap FlushCall.took

/-- **A sample that a store has taken**: its recording has returned without a
refusal, or only has to give the lock back. -/
def Accepted (traffic : Traffic P) (entry : Numbered) : Prop :=
  traffic.recorded[entry.number]? = some ⟨entry.sample, .ok ()⟩ ∨
    entry.number = traffic.recorded.length ∧
      ∃ slot, traffic.recording = some (entry.sample, .releasing slot)

/-- **Every accepted sample is somewhere, and only once.** -/
structure Accounted (traffic : Traffic P) : Prop where
  nodup : traffic.everywhere.Nodup
  mem_iff : ∀ entry, entry ∈ traffic.everywhere ↔ traffic.Accepted entry
  /-- A recording that has its outcome is no longer under way. -/
  outcome?_eq_none : ∀ sample recording, traffic.recording = some (sample, recording) →
    recording.outcome? = none

/-! ## How samples move -/

/-- A sample that is added is added once. -/
theorem inStores_stored_add (held : SlotId → List Numbered) (number : Nat) (slot : SlotId)
    (sample : Sample) :
    (inStores (stored held number (some (slot, .add sample)))).Perm
      (inStores held ++ [⟨number, sample⟩]) := by
  cases slot with
  | one =>
    have hother : SlotId.two ≠ .one := by decide
    simp only [inStores, stored, Function.update_self, Function.update_of_ne hother,
      List.append_assoc]
    exact List.perm_append_comm.append_left _
  | two =>
    have hother : SlotId.one ≠ .two := by decide
    simp only [inStores, stored, Function.update_self, Function.update_of_ne hother,
      List.append_assoc]
    exact .refl _

/-- What a flush finds is what it takes out. -/
theorem inStores_emptied (held : SlotId → List Numbered)
    (storeCall? : Option (SlotId × StoreCall)) :
    (inStores (emptied held storeCall?) ++ found held storeCall?).Perm (inStores held) := by
  match storeCall? with
  | none => simp [emptied, found]
  | some (slot, .add sample) => simp [emptied, found]
  | some (slot, .setStartTime now) => simp [emptied, found]
  | some (.one, .reset now) =>
    have hother : SlotId.two ≠ .one := by decide
    simp only [inStores, emptied, found, Function.update_self, Function.update_of_ne hother]
    exact List.perm_append_comm
  | some (.two, .reset now) =>
    have hother : SlotId.one ≠ .two := by decide
    simp only [inStores, emptied, found, Function.update_self, Function.update_of_ne hother,
      List.append_nil]
    exact .refl _

/-- **A step of a flush moves samples** and neither adds nor removes one. -/
theorem everywhere_flushStep {traffic : Traffic P} {i : Nat} {call : FlushCall P}
    (hcall : traffic.flushes[i]? = some call) (phase : Flush P) (recorder : Recorder P) :
    (traffic.flushStep i call phase recorder).everywhere.Perm traffic.everywhere := by
  obtain ⟨hlt, hget⟩ := List.getElem?_eq_some_iff.1 hcall
  -- this flush and the others, before and after
  have hbefore := ((List.getElem_cons_eraseIdx_perm hlt).flatMap_right FlushCall.took)
  have hafter := (List.set_perm_cons_eraseIdx hlt (call.stepped traffic.held phase)).flatMap_right
    FlushCall.took
  rw [hget] at hbefore
  have hstores := inStores_emptied traffic.held call.phase.storeCall?
  refine List.perm_iff_count.2 fun entry => ?_
  have hbefore := hbefore.count_eq entry
  have hafter := hafter.count_eq entry
  have hstores := hstores.count_eq entry
  simp only [List.flatMap_cons, List.count_append, FlushCall.stepped] at hbefore hafter hstores
  simp only [everywhere, flushStep, List.count_append, FlushCall.stepped]
  omega

namespace Accounted

variable {traffic : Traffic P} (h : traffic.Accounted)
include h

/-- A recording may begin. -/
theorem record (sample : Sample) (hrecording : traffic.recording = none) :
    { traffic with recording := some (sample, .start) }.Accounted where
  nodup := h.nodup
  mem_iff := by
    intro entry
    refine (h.mem_iff entry).trans (or_congr_right (and_congr_right fun _ => ?_))
    constructor
    · rintro ⟨slot, hslot⟩
      rw [hrecording] at hslot
      cases hslot
    · rintro ⟨slot, hslot⟩
      cases hslot
  outcome?_eq_none := by
    intro sample' recording heq
    obtain ⟨-, rfl⟩ := Prod.mk.inj (Option.some.inj heq)
    rfl

/-- A flush may be asked for: it has taken nothing. -/
theorem flush (finish : Instant) (since : Nat) :
    { traffic with flushes := traffic.flushes ++ [FlushCall.called finish since] }.Accounted where
  nodup := by
    have hnodup := h.nodup
    simpa [everywhere, FlushCall.called] using hnodup
  mem_iff := by
    intro entry
    refine Iff.trans ?_ (h.mem_iff entry)
    simp [everywhere, FlushCall.called]
  outcome?_eq_none := h.outcome?_eq_none

/-- A flush may make a step. -/
theorem flushStep {i : Nat} {call : FlushCall P} (hcall : traffic.flushes[i]? = some call)
    (phase : Flush P) (recorder : Recorder P) :
    (traffic.flushStep i call phase recorder).Accounted where
  nodup := (everywhere_flushStep hcall phase recorder).nodup_iff.2 h.nodup
  mem_iff := fun entry =>
    (everywhere_flushStep hcall phase recorder).mem_iff.trans (h.mem_iff entry)
  outcome?_eq_none := h.outcome?_eq_none

/-- The number of the recording under way is new until it has added its sample. -/
theorem not_mem_of_adding {sample : Sample} {slot : SlotId}
    (hrecording : traffic.recording = some (sample, .adding slot)) :
    ⟨traffic.recorded.length, sample⟩ ∉ traffic.everywhere := by
  intro hmem
  rcases (h.mem_iff _).1 hmem with hrecorded | ⟨-, slot', hreleasing⟩
  · rw [List.getElem?_eq_none (Nat.le_refl _)] at hrecorded
    cases hrecorded
  · rw [hrecording] at hreleasing
    cases hreleasing

variable [ProfileStore P]

/-- While slots are tried nothing is accepted. -/
theorem recordStep_trying {sample : Sample} {round : Nat} {slot : SlotId}
    (hrecording : traffic.recording = some (sample, .trying round slot)) :
    (traffic.recordStep sample (.trying round slot)).Accounted := by
  -- whether the slot is free or not, the recording has not added its sample
  obtain ⟨next, hnext, houtcome, hreleasing⟩ : ∃ next,
      ((Recording.trying round slot).step sample traffic.recorder).1 = next ∧
        next.outcome? = none ∧ ∀ slot', next ≠ .releasing slot' := by
    refine ⟨_, rfl, ?_⟩
    simp only [Recording.step]
    split
    · cases slot with
      | one => exact ⟨rfl, fun slot' heq => by cases heq⟩
      | two =>
        simp only [Recording.afterMiss]
        split
        · exact ⟨rfl, fun slot' heq => by cases heq⟩
        · exact ⟨rfl, fun slot' heq => by cases heq⟩
    · exact ⟨rfl, fun slot' heq => by cases heq⟩
  have hafter : (traffic.recordStep sample (.trying round slot)).recording = some (sample, next) ∧
      (traffic.recordStep sample (.trying round slot)).recorded = traffic.recorded := by
    simp [Traffic.recordStep, hnext, houtcome]
  refine ⟨h.nodup, ?_, ?_⟩
  · intro entry
    refine (h.mem_iff entry).trans ?_
    rw [Accepted, Accepted, hafter.1, hafter.2, hrecording]
    refine or_congr_right (and_congr_right fun _ => ?_)
    constructor
    · rintro ⟨slot', heq⟩
      cases heq
    · rintro ⟨slot', heq⟩
      exact absurd (Prod.mk.inj (Option.some.inj heq)).2 (hreleasing slot')
  · intro sample' recording' heq
    rw [hafter.1] at heq
    obtain ⟨-, rfl⟩ := Prod.mk.inj (Option.some.inj heq)
    exact houtcome

/-- **A sample that is added** is accepted. -/
theorem recordStep_adding {sample : Sample} {slot : SlotId}
    (hrecording : traffic.recording = some (sample, .adding slot)) :
    (traffic.recordStep sample (.adding slot)).Accounted := by
  have hperm : (traffic.recordStep sample (.adding slot)).everywhere.Perm
      (⟨traffic.recorded.length, sample⟩ :: traffic.everywhere) := by
    have hstores := inStores_stored_add traffic.held traffic.recorded.length slot sample
    refine (hstores.append_right _).trans ?_
    rw [everywhere, List.append_assoc]
    exact List.perm_middle
  have hafter : (traffic.recordStep sample (.adding slot)).recorded = traffic.recorded :=
    List.append_nil _
  refine ⟨?_, ?_, ?_⟩
  · -- the number is new, so the sample is nowhere else
    rw [hperm.nodup_iff, List.nodup_cons]
    exact ⟨h.not_mem_of_adding hrecording, h.nodup⟩
  · intro entry
    rw [hperm.mem_iff, List.mem_cons, h.mem_iff, Accepted, Accepted, hafter, hrecording]
    constructor
    · rintro (rfl | hrecorded | ⟨-, slot', heq⟩)
      · exact .inr ⟨rfl, slot, rfl⟩
      · exact .inl hrecorded
      · cases heq
    · rintro (hrecorded | ⟨hnumber, slot', heq⟩)
      · exact .inr (.inl hrecorded)
      · obtain ⟨number, sample'⟩ := entry
        obtain ⟨rfl, -⟩ := Prod.mk.inj (Option.some.inj heq)
        obtain rfl : number = traffic.recorded.length := hnumber
        exact .inl rfl
  · intro sample' recording' heq
    obtain ⟨-, rfl⟩ := Prod.mk.inj (Option.some.inj heq)
    rfl

/-- A recording that returns keeps what it has done. -/
theorem recordStep_returning {sample : Sample} {recording : Recording}
    (hrecording : traffic.recording = some (sample, recording))
    {outcome : Except RecordError Unit}
    (houtcome : (recording.step sample traffic.recorder).1.outcome? = some outcome)
    (hstored : recording.storeCall? sample = none)
    (haccepted : outcome = .ok () ↔ ∃ slot, recording = .releasing slot) :
    (traffic.recordStep sample recording).Accounted := by
  have hrecorded : (traffic.recordStep sample recording).recorded =
      traffic.recorded ++ [⟨sample, outcome⟩] := by
    simp [Traffic.recordStep, houtcome]
  have hnone : (traffic.recordStep sample recording).recording = none := by
    simp [Traffic.recordStep, houtcome]
  have hsame : (traffic.recordStep sample recording).everywhere = traffic.everywhere := by
    rw [everywhere, Traffic.recordStep, hstored]
    rfl
  refine ⟨by rw [hsame]; exact h.nodup, ?_, ?_⟩
  · intro entry
    rw [hsame, h.mem_iff, Accepted, Accepted, hrecorded, hnone, hrecording,
      getElem?_concat_eq_some_iff]
    -- a sample that was only to be released is now among the recorded
    constructor
    · rintro (hold | ⟨hnumber, slot, heq⟩)
      · exact .inl (.inl hold)
      · obtain ⟨rfl, hreleasing⟩ := Prod.mk.inj (Option.some.inj heq)
        rw [haccepted.2 ⟨slot, hreleasing⟩]
        exact .inl (.inr ⟨hnumber, rfl⟩)
    · rintro ((hold | ⟨hnumber, heq⟩) | ⟨-, slot, heq⟩)
      · exact .inl hold
      · obtain ⟨rfl, hok⟩ := Recorded.mk.inj heq
        obtain ⟨slot, hreleasing⟩ := haccepted.1 hok
        exact .inr ⟨hnumber, slot, by rw [hreleasing]⟩
      · cases heq
  · intro sample' recording' heq
    rw [hnone] at heq
    cases heq

/-- The recording may make a step. -/
theorem recordStep {sample : Sample} {recording : Recording}
    (hrecording : traffic.recording = some (sample, recording)) :
    (traffic.recordStep sample recording).Accounted := by
  cases recording with
  | trying round slot => exact h.recordStep_trying hrecording
  | adding slot => exact h.recordStep_adding hrecording
  | releasing slot =>
    refine h.recordStep_returning hrecording rfl rfl ?_
    exact ⟨fun _ => ⟨slot, rfl⟩, fun _ => rfl⟩
  | dropping =>
    refine h.recordStep_returning hrecording rfl rfl ⟨?_, ?_⟩
    · intro heq
      cases heq
    · rintro ⟨slot, heq⟩
      cases heq
  | done outcome =>
    have hnone := h.outcome?_eq_none sample _ hrecording
    cases hnone

/-- **Every step accounts for every sample.** -/
theorem step {traffic' : Traffic P} {action : Action}
    (hstep : traffic.step? action = some traffic') : traffic'.Accounted := by
  rcases step?_cases hstep with ⟨sample, -, hrecording, rfl⟩ |
    ⟨sample, recording, -, hrecording, rfl⟩ | ⟨finish, -, rfl⟩ |
    ⟨i, now, call, phase, recorder, -, hcall, hphase, rfl⟩
  · exact h.record sample hrecording
  · exact h.recordStep hrecording
  · exact h.flush finish _
  · exact h.flushStep hcall phase recorder

end Accounted

theorem accounted_new [ProfileStore P] (enabled : EnabledMetrics) (now : Instant) :
    (new enabled now : Traffic P).Accounted where
  nodup := List.nodup_nil
  mem_iff := by
    intro entry
    constructor
    · intro hmem
      cases hmem
    · rintro (hrecorded | ⟨-, slot, heq⟩)
      · cases hrecorded
      · cases heq
  outcome?_eq_none := by
    intro sample recording heq
    cases heq

/-- **Every sample is accounted for at all times.** -/
theorem accounted_after [ProfileStore P] (enabled : EnabledMetrics) (now : Instant)
    (actions : List Action) : ((new enabled now : Traffic P).after actions).Accounted :=
  after_induction (accounted_new enabled now) (fun _ _ _ h hstep => h.step hstep) actions

/-! ## One place for each -/

theorem mem_tookBy_iff {traffic : Traffic P} {i : Nat} {entry : Numbered} :
    entry ∈ traffic.tookBy i ↔ ∃ call, traffic.flushes[i]? = some call ∧ entry ∈ call.took := by
  rw [tookBy]
  cases traffic.flushes[i]? <;> simp

theorem mem_everywhere_iff {traffic : Traffic P} {entry : Numbered} :
    entry ∈ traffic.everywhere ↔ ∃ place, entry ∈ traffic.samplesAt place := by
  rw [everywhere, inStores, List.mem_append, List.mem_append, List.mem_flatMap]
  constructor
  · rintro ((hone | htwo) | ⟨call, hcall, htook⟩)
    · exact ⟨.slot .one, hone⟩
    · exact ⟨.slot .two, htwo⟩
    · obtain ⟨i, hi⟩ := List.mem_iff_getElem?.1 hcall
      exact ⟨.flush i, mem_tookBy_iff.2 ⟨call, hi, htook⟩⟩
  · rintro ⟨place, hmem⟩
    cases place with
    | slot id =>
      cases id with
      | one => exact .inl (.inl hmem)
      | two => exact .inl (.inr hmem)
    | flush i =>
      obtain ⟨call, hcall, htook⟩ := mem_tookBy_iff.1 hmem
      exact .inr ⟨call, List.mem_iff_getElem?.2 ⟨i, hcall⟩, htook⟩

namespace Accounted

variable {traffic : Traffic P} (h : traffic.Accounted)
include h

/-- No place has a sample twice. -/
theorem samplesAt_nodup (place : Place) : (traffic.samplesAt place).Nodup := by
  have hnodup := h.nodup
  rw [everywhere, inStores, List.nodup_append, List.nodup_append, List.nodup_flatMap] at hnodup
  obtain ⟨⟨hone, htwo, -⟩, ⟨htook, -⟩, -⟩ := hnodup
  cases place with
  | slot id =>
    cases id with
    | one => exact hone
    | two => exact htwo
  | flush i =>
    show (traffic.tookBy i).Nodup
    rw [tookBy]
    cases hcall : traffic.flushes[i]? with
    | none => exact List.nodup_nil
    | some call => exact htook call (List.mem_iff_getElem?.2 ⟨i, hcall⟩)

/-- No two places have a sample in common. -/
theorem place_eq {place place' : Place} {entry : Numbered}
    (hplace : entry ∈ traffic.samplesAt place) (hplace' : entry ∈ traffic.samplesAt place') :
    place = place' := by
  have hnodup := h.nodup
  rw [everywhere, inStores, List.nodup_append, List.nodup_append, List.nodup_flatMap] at hnodup
  obtain ⟨⟨-, -, hslots⟩, ⟨-, hflushes⟩, hstores⟩ := hnodup
  -- slots against flushes, and flushes among each other
  have hslot : ∀ id i, entry ∈ traffic.held id → entry ∉ traffic.tookBy i := by
    intro id i hheld htook
    obtain ⟨call, hcall, htook⟩ := mem_tookBy_iff.1 htook
    refine hstores entry ?_ entry
      (List.mem_flatMap.2 ⟨call, List.mem_iff_getElem?.2 ⟨i, hcall⟩, htook⟩) rfl
    cases id with
    | one => exact List.mem_append_left _ hheld
    | two => exact List.mem_append_right _ hheld
  have hlt : ∀ i j, i < j → entry ∈ traffic.tookBy i → entry ∉ traffic.tookBy j := by
    intro i j hij hi hj
    obtain ⟨call, hcall, htook⟩ := mem_tookBy_iff.1 hi
    obtain ⟨other, hother, htook'⟩ := mem_tookBy_iff.1 hj
    obtain ⟨hilt, rfl⟩ := List.getElem?_eq_some_iff.1 hcall
    obtain ⟨hjlt, rfl⟩ := List.getElem?_eq_some_iff.1 hother
    exact List.pairwise_iff_getElem.1 hflushes i j hilt hjlt hij htook htook'
  cases place with
  | slot id =>
    cases place' with
    | slot id' =>
      cases id <;> cases id'
      · rfl
      · exact absurd rfl (hslots entry hplace entry hplace')
      · exact absurd rfl (hslots entry hplace' entry hplace)
      · rfl
    | flush j => exact absurd hplace' (hslot id j hplace)
  | flush i =>
    cases place' with
    | slot id' => exact absurd hplace (hslot id' i hplace')
    | flush j =>
      rcases Nat.lt_trichotomy i j with hij | rfl | hji
      · exact absurd hplace' (hlt i j hij hplace)
      · rfl
      · exact absurd hplace (hlt j i hji hplace')

/-- **An accepted sample is in exactly one place.** -/
theorem existsUnique_place {entry : Numbered} (haccepted : traffic.Accepted entry) :
    ∃! place, entry ∈ traffic.samplesAt place := by
  obtain ⟨place, hplace⟩ := mem_everywhere_iff.1 ((h.mem_iff entry).2 haccepted)
  exact ⟨place, hplace, fun place' hplace' => h.place_eq hplace' hplace⟩

/-- **A sample that was refused is in no place.** -/
theorem not_mem_of_refused {number : Nat} {sample sample' : Sample} {error : RecordError}
    (hrefused : traffic.recorded[number]? = some ⟨sample', .error error⟩) (place : Place) :
    ⟨number, sample⟩ ∉ traffic.samplesAt place := by
  intro hmem
  rcases (h.mem_iff _).1 (mem_everywhere_iff.2 ⟨place, hmem⟩) with hrecorded | ⟨hnumber, -⟩
  · rw [hrefused] at hrecorded
    cases hrecorded
  · obtain ⟨hlt, -⟩ := List.getElem?_eq_some_iff.1 hrefused
    have heq : number = traffic.recorded.length := hnumber
    omega

end Accounted

end Traffic

end StackProfiler
