import Mathlib.Data.List.TakeWhile
import StackProfiler.Proofs.Recorder.Conservation
/-!
# Recorders — a flush leaves nothing behind

Every sample whose recording had returned when a flush was called is taken by
that flush or by one that returned before it (`Traffic.Delivered`): the slot that
is held back is empty when the flush looks, so such a sample is in the active
slot, which the flush empties, or has been taken already.
-/

namespace StackProfiler

namespace Flush

variable {P : Type}

/-- The slot that a flush has still to empty, from when it has looked. -/
def old? : Flush P → Option SlotId
  | .stamping old _ | .opening old _ | .locking old _ | .switching old _ | .taking old _ =>
    some old
  | .entering | .looking | .leaving _ | .done _ => none

/-- What a flush has taken, from when it has. -/
def flushed? : Flush P → Option (Flushed P)
  | .leaving flushed | .done flushed => some flushed
  | .entering | .looking | .stamping .. | .opening .. | .locking .. | .switching .. | .taking .. =>
    none

/-- A flush that has still to empty a slot is inside. -/
theorem inside_of_old? {flush : Flush P} {old : SlotId} (h : flush.old? = some old) :
    flush.inside = true := by
  cases flush <;> first | rfl | cases h

end Flush

namespace Traffic

variable {P : Type}

/-- **What a step of a flush is to the samples**: it enters, looks, goes on with
the old slot without touching samples, takes them, or leaves. -/
theorem step?_shape [ProfileStore P] {finish now : Instant} {recorder recorder' : Recorder P}
    {flush next : Flush P} (h : flush.step? finish now recorder = some (next, recorder')) :
    (flush = .entering ∧ next = .looking) ∨
    (flush = .looking ∧ next = .stamping recorder.active now) ∨
    (∃ old, flush.old? = some old ∧ next.old? = some old ∧ next.flushed? = none ∧
      ∀ held, emptied held flush.storeCall? = held ∧ found held flush.storeCall? = []) ∨
    (∃ old now' flushed, flush = .taking old now' ∧ next = .leaving flushed) ∨
    (∃ flushed, flush = .leaving flushed ∧ next = .done flushed) := by
  cases Flush.makes_of_step? h with
  | enter hfree => exact .inl ⟨rfl, rfl⟩
  | look => exact .inr (.inl ⟨rfl, rfl⟩)
  | stamp old moment => exact .inr (.inr (.inl ⟨old, rfl, rfl, rfl, fun _ => ⟨rfl, rfl⟩⟩))
  | unlock old moment => exact .inr (.inr (.inl ⟨old, rfl, rfl, rfl, fun _ => ⟨rfl, rfl⟩⟩))
  | lock old moment hfree =>
    exact .inr (.inr (.inl ⟨old, rfl, rfl, rfl, fun _ => ⟨rfl, rfl⟩⟩))
  | switch old moment => exact .inr (.inr (.inl ⟨old, rfl, rfl, rfl, fun _ => ⟨rfl, rfl⟩⟩))
  | take old moment => exact .inr (.inr (.inr (.inl ⟨old, moment, _, rfl, rfl⟩)))
  | leave flushed => exact .inr (.inr (.inr (.inr ⟨flushed, rfl, rfl⟩)))

/-- The flushes that have returned, up to this one. -/
def returnedBefore (traffic : Traffic P) (i : Nat) : List Nat :=
  traffic.returned.takeWhile (· ≠ i)

/-- **What the first recordings have left is among some samples**, or a flush
that returned before this one has taken it. -/
def Covers (traffic : Traffic P) (i since : Nat) (samples : List Numbered) : Prop :=
  ∀ entry : Numbered, traffic.recorded[entry.number]? = some ⟨entry.sample, .ok ()⟩ →
    entry.number < since →
      entry ∈ samples ∨ ∃ j ∈ traffic.returnedBefore i, entry ∈ traffic.tookBy j

/-- **Every flush takes what had been recorded when it was called.** -/
structure Delivered (traffic : Traffic P) : Prop where
  since_le : ∀ (i : Nat) (call : FlushCall P), traffic.flushes[i]? = some call →
    call.since ≤ traffic.recorded.length
  took_eq_nil : ∀ (i : Nat) (call : FlushCall P), traffic.flushes[i]? = some call →
    call.phase.flushed? = none → call.took = []
  mem_returned_iff : ∀ i, i ∈ traffic.returned ↔
    ∃ call, traffic.flushes[i]? = some call ∧ call.phase.result?.isSome
  /-- A flush that has looked finds it in the old slot. -/
  covers_old : ∀ (i : Nat) (call : FlushCall P), traffic.flushes[i]? = some call →
    ∀ old, call.phase.old? = some old → traffic.Covers i call.since (traffic.held old)
  covers_took : ∀ (i : Nat) (call : FlushCall P), traffic.flushes[i]? = some call →
    call.phase.flushed?.isSome → traffic.Covers i call.since call.took

/-- What is covered stays so while no sample is lost. -/
theorem Covers.mono {traffic traffic' : Traffic P} {i since : Nat}
    {samples samples' : List Numbered} (h : traffic.Covers i since samples)
    (hrecorded : ∀ n < since, traffic'.recorded[n]? = traffic.recorded[n]?)
    (hsamples : samples ⊆ samples')
    (hreturned : traffic.returnedBefore i ⊆ traffic'.returnedBefore i)
    (htook : ∀ j, traffic.tookBy j ⊆ traffic'.tookBy j) : traffic'.Covers i since samples' := by
  intro entry hok hlt
  rw [hrecorded entry.number hlt] at hok
  rcases h entry hok hlt with hmem | ⟨j, hj, hmem⟩
  · exact .inl (hsamples hmem)
  · exact .inr ⟨j, hreturned hj, htook j hmem⟩

/-- Recordings take nothing out. -/
theorem subset_stored (held : SlotId → List Numbered) (number : Nat)
    (storeCall? : Option (SlotId × StoreCall)) (id : SlotId) :
    held id ⊆ stored held number storeCall? id := by
  intro entry hmem
  match storeCall? with
  | none => exact hmem
  | some (slot, .setStartTime now) => exact hmem
  | some (slot, .reset now) => exact hmem
  | some (slot, .add sample) =>
    by_cases hid : id = slot
    · subst hid
      simp only [stored, Function.update_self]
      exact List.mem_append_left _ hmem
    · simp only [stored, Function.update_of_ne hid]
      exact hmem

/-- Who returns later is not before those who have returned. -/
theorem returnedBefore_subset_append (traffic : Traffic P) (returned : List Nat) (i : Nat) :
    traffic.returnedBefore i ⊆ (traffic.returned ++ returned).takeWhile (· ≠ i) := by
  intro j hj
  rw [List.takeWhile_append]
  split
  · exact List.mem_append_left _ ((List.takeWhile_prefix _).subset hj)
  · exact hj

/-- Flushes give nothing back. -/
theorem tookBy_subset_flushStep {traffic : Traffic P} {i : Nat} {call : FlushCall P}
    (hcall : traffic.flushes[i]? = some call) (phase : Flush P) (recorder : Recorder P) (j : Nat) :
    traffic.tookBy j ⊆ (traffic.flushStep i call phase recorder).tookBy j := by
  intro entry hmem
  obtain ⟨other, hother, hentry⟩ := mem_tookBy_iff.1 hmem
  rw [mem_tookBy_iff, flushes_flushStep hcall]
  by_cases hji : j = i
  · subst hji
    obtain rfl := Option.some.inj (hcall.symm.trans hother)
    exact ⟨_, if_pos rfl, List.mem_append_left _ hentry⟩
  · exact ⟨other, by rw [if_neg hji, hother], hentry⟩

namespace Delivered

variable {traffic : Traffic P} (h : traffic.Delivered)
include h

/-- A recording may begin. -/
theorem record (sample : Sample) :
    { traffic with recording := some (sample, .start) }.Delivered :=
  ⟨h.since_le, h.took_eq_nil, h.mem_returned_iff, h.covers_old, h.covers_took⟩

/-- A flush may be asked for. -/
theorem flush (finish : Instant) :
    { traffic with flushes :=
        traffic.flushes ++ [FlushCall.called finish traffic.recorded.length] }.Delivered := by
  have htook : ∀ j, traffic.tookBy j ⊆ { traffic with flushes :=
      traffic.flushes ++ [FlushCall.called finish traffic.recorded.length] }.tookBy j := by
    intro j entry hmem
    obtain ⟨call, hcall, hentry⟩ := mem_tookBy_iff.1 hmem
    exact mem_tookBy_iff.2 ⟨call, getElem?_concat_eq_some_iff.2 (.inl hcall), hentry⟩
  refine ⟨of_getElem?_concat h.since_le (Nat.le_refl _),
    of_getElem?_concat h.took_eq_nil (fun _ => rfl), ?_, ?_, ?_⟩
  · intro i
    refine (h.mem_returned_iff i).trans ⟨?_, ?_⟩
    · rintro ⟨call, hcall, hresult⟩
      exact ⟨call, getElem?_concat_eq_some_iff.2 (.inl hcall), hresult⟩
    · rintro ⟨call, hcall, hresult⟩
      rcases getElem?_concat_eq_some_iff.1 hcall with hcall | ⟨-, rfl⟩
      · exact ⟨call, hcall, hresult⟩
      · cases hresult
  · refine of_getElem?_concat (fun i call hcall old hold => ?_) ?_
    · exact (h.covers_old i call hcall old hold).mono (fun _ _ => rfl) (fun _ => id) (fun _ => id)
        htook
    · intro old hold
      cases hold
  · refine of_getElem?_concat (fun i call hcall hflushed => ?_) ?_
    · exact (h.covers_took i call hcall hflushed).mono (fun _ _ => rfl) (fun _ => id) (fun _ => id)
        htook
    · intro hflushed
      cases hflushed

/-- **When a flush looks, what has been recorded is in the active slot**, or has
been taken by a flush that has returned. -/
theorem covers_active (horderly : traffic.Orderly) (haccounted : traffic.Accounted) {i : Nat}
    {call : FlushCall P} (hcall : traffic.flushes[i]? = some call)
    (hlooking : call.phase = .looking) (since : Nat) :
    traffic.Covers i since (traffic.held traffic.recorder.active) := by
  have hinside : call.phase.inside = true := by
    rw [hlooking]
    rfl
  have hspare : traffic.held traffic.recorder.active.other = [] := by
    refine (horderly.poised_of_inside i call hcall hinside).spare_empty _ ?_
    rw [hlooking]
    rfl
  -- it has not returned itself, so all that have returned did so before it
  have hnot : i ∉ traffic.returned := by
    intro hreturned
    obtain ⟨other, hother, hresult⟩ := (h.mem_returned_iff i).1 hreturned
    obtain rfl := Option.some.inj (hcall.symm.trans hother)
    rw [hlooking] at hresult
    cases hresult
  have hbefore : traffic.returnedBefore i = traffic.returned := by
    refine List.takeWhile_eq_self_iff.2 fun j hj => ?_
    simp only [decide_eq_true_eq]
    rintro rfl
    exact hnot hj
  intro entry hok _
  obtain ⟨place, hplace⟩ := mem_everywhere_iff.1 ((haccounted.mem_iff entry).2 (.inl hok))
  -- what is accepted is in the active slot, in the other one, which is empty, or taken
  cases place with
  | slot id =>
    by_cases hid : id = traffic.recorder.active
    · exact .inl (hid ▸ hplace)
    · have hmem : entry ∈ traffic.held id := hplace
      rw [SlotId.eq_other_of_ne hid, hspare] at hmem
      cases hmem
  | flush j =>
    obtain ⟨other, hother, hentry⟩ := mem_tookBy_iff.1 hplace
    refine .inr ⟨j, ?_, hplace⟩
    rw [hbefore, h.mem_returned_iff]
    refine ⟨other, hother, ?_⟩
    -- a flush that has taken something and not returned would be inside as well
    cases hphase : other.phase with
    | done flushed => rfl
    | leaving flushed =>
      obtain rfl := horderly.alone i j call other hcall hother hinside (by rw [hphase]; rfl)
      obtain rfl := Option.some.inj (hcall.symm.trans hother)
      rw [hlooking] at hphase
      cases hphase
    | _ =>
      rw [h.took_eq_nil j other hother (by rw [hphase]; rfl)] at hentry
      cases hentry

variable [ProfileStore P]

/-- The recording may make a step. -/
theorem recordStep (sample : Sample) (recording : Recording) :
    (traffic.recordStep sample recording).Delivered := by
  -- what is appended stands behind everything a flush has to deliver
  have hrecorded : ∀ (i : Nat) (call : FlushCall P), traffic.flushes[i]? = some call →
      ∀ n < call.since,
        (traffic.recordStep sample recording).recorded[n]? = traffic.recorded[n]? := by
    intro i call hcall n hn
    exact List.getElem?_append_left (Nat.lt_of_lt_of_le hn (h.since_le i call hcall))
  refine ⟨?_, h.took_eq_nil, h.mem_returned_iff, ?_, ?_⟩
  · intro i call hcall
    refine Nat.le_trans (h.since_le i call hcall) ?_
    rw [Traffic.recordStep, List.length_append]
    exact Nat.le_add_right _ _
  · intro i call hcall old hold
    exact (h.covers_old i call hcall old hold).mono (hrecorded i call hcall)
      (subset_stored ..) (fun _ => id) (fun _ _ => id)
  · intro i call hcall hflushed
    exact (h.covers_took i call hcall hflushed).mono (hrecorded i call hcall)
      (fun _ => id) (fun _ => id) (fun _ _ => id)

/-- Only its last step makes a flush one that has returned. -/
theorem mem_returned_flushStep {i : Nat} {call : FlushCall P}
    (hcall : traffic.flushes[i]? = some call) {now : Instant} {phase : Flush P}
    {recorder : Recorder P}
    (hstep : call.phase.step? call.finish now traffic.recorder = some (phase, recorder)) (j : Nat) :
    j ∈ (traffic.flushStep i call phase recorder).returned ↔
      ∃ other, (traffic.flushStep i call phase recorder).flushes[j]? = some other ∧
        other.phase.result?.isSome := by
  have hnot : i ∉ traffic.returned := by
    intro hreturned
    obtain ⟨other, hother, hresult⟩ := (h.mem_returned_iff i).1 hreturned
    obtain rfl := Option.some.inj (hcall.symm.trans hother)
    exact Flush.result?_of_step? hstep hresult
  rw [flushes_flushStep hcall]
  by_cases hji : j = i
  · subst hji
    have hphase : (∃ other, some (call.stepped traffic.held phase) = some other ∧
        other.phase.result?.isSome) ↔ phase.result?.isSome := by
      constructor
      · rintro ⟨other, heq, hresult⟩
        obtain rfl := Option.some.inj heq
        exact hresult
      · exact fun hresult => ⟨_, rfl, hresult⟩
    rw [if_pos rfl, hphase, Traffic.flushStep]
    by_cases hresult : phase.result?.isSome
    · simp [hresult]
    · simp [hresult, hnot]
  · rw [if_neg hji, ← h.mem_returned_iff j, Traffic.flushStep]
    by_cases hresult : phase.result?.isSome
    · simp [hresult, hji]
    · simp [hresult]

/-- A flush that has not taken anything has found nothing. -/
theorem took_flushStep {i : Nat} {call : FlushCall P} (hcall : traffic.flushes[i]? = some call)
    {now : Instant} {phase : Flush P} {recorder : Recorder P}
    (hstep : call.phase.step? call.finish now traffic.recorder = some (phase, recorder))
    (hflushed : phase.flushed? = none) : (call.stepped traffic.held phase).took = [] := by
  have htook : call.phase.flushed? = none → call.took = [] := h.took_eq_nil i call hcall
  rw [FlushCall.stepped]
  rcases step?_shape hstep with ⟨hentering, -⟩ | ⟨hlooking, -⟩ | ⟨old, hold, -, -, hheld⟩ |
    ⟨-, -, flushed, -, rfl⟩ | ⟨flushed, -, rfl⟩
  · rw [hentering] at htook ⊢
    rw [htook rfl]
    rfl
  · rw [hlooking] at htook ⊢
    rw [htook rfl]
    rfl
  · rw [(hheld _).2, List.append_nil]
    refine htook ?_
    cases hphase : call.phase <;> first | rfl | (rw [hphase] at hold; cases hold)
  · cases hflushed
  · cases hflushed

/-- The flush that makes a step still finds in the old slot what it has to take. -/
theorem covers_old_flushStep (horderly : traffic.Orderly) (haccounted : traffic.Accounted)
    {i : Nat} {call : FlushCall P} (hcall : traffic.flushes[i]? = some call) {now : Instant}
    {phase : Flush P} {recorder : Recorder P}
    (hstep : call.phase.step? call.finish now traffic.recorder = some (phase, recorder))
    {old : SlotId} (hold : phase.old? = some old) :
    traffic.Covers i call.since (emptied traffic.held call.phase.storeCall? old) := by
  rcases step?_shape hstep with ⟨-, rfl⟩ | ⟨hlooking, rfl⟩ | ⟨old', hold', hnext, -, hheld⟩ |
    ⟨-, -, flushed, -, rfl⟩ | ⟨flushed, -, rfl⟩
  · cases hold
  · obtain rfl : traffic.recorder.active = old := Option.some.inj hold
    rw [hlooking]
    exact h.covers_active horderly haccounted hcall hlooking call.since
  · obtain rfl := Option.some.inj (hnext.symm.trans hold)
    rw [(hheld _).1]
    exact h.covers_old i call hcall _ hold'
  · cases hold
  · cases hold

/-- What it finds there it takes. -/
theorem covers_took_flushStep {i : Nat} {call : FlushCall P}
    (hcall : traffic.flushes[i]? = some call) {now : Instant} {phase : Flush P}
    {recorder : Recorder P}
    (hstep : call.phase.step? call.finish now traffic.recorder = some (phase, recorder))
    (hflushed : phase.flushed?.isSome) :
    traffic.Covers i call.since (call.stepped traffic.held phase).took := by
  rcases step?_shape hstep with ⟨-, rfl⟩ | ⟨-, rfl⟩ | ⟨-, -, -, hnone, -⟩ |
    ⟨old, now', flushed, htaking, rfl⟩ | ⟨flushed, hleaving, rfl⟩
  · cases hflushed
  · cases hflushed
  · rw [hnone] at hflushed
    cases hflushed
  · have hcovers := h.covers_old i call hcall old (by rw [htaking]; rfl)
    refine hcovers.mono (fun _ _ => rfl) ?_ (fun _ => id) (fun _ _ => id)
    rw [FlushCall.stepped, htaking]
    exact List.subset_append_right _ _
  · have hcovers := h.covers_took i call hcall (by rw [hleaving]; rfl)
    exact hcovers.mono (fun _ _ => rfl) (List.subset_append_left _ _) (fun _ => id)
      (fun _ _ => id)

/-- A flush may make a step. -/
theorem flushStep (horderly : traffic.Orderly) (haccounted : traffic.Accounted) {i : Nat}
    {call : FlushCall P} (hcall : traffic.flushes[i]? = some call) {now : Instant}
    {phase : Flush P} {recorder : Recorder P}
    (hstep : call.phase.step? call.finish now traffic.recorder = some (phase, recorder)) :
    (traffic.flushStep i call phase recorder).Delivered := by
  -- nothing that is covered gets uncovered, whichever flush makes the step
  have hmono : ∀ {j since : Nat} {samples : List Numbered}, traffic.Covers j since samples →
      (traffic.flushStep i call phase recorder).Covers j since samples := by
    intro j since samples hcovers
    refine hcovers.mono (fun _ _ => rfl) (fun _ => id) ?_
      (tookBy_subset_flushStep hcall phase recorder)
    rw [returnedBefore, returnedBefore, Traffic.flushStep]
    split
    · exact traffic.returnedBefore_subset_append [i] j
    · exact fun _ => id
  refine ⟨?_, ?_, h.mem_returned_flushStep hcall hstep, ?_, ?_⟩
  · exact of_flushes_flushStep hcall (h.since_le i call hcall) fun j other _ => h.since_le j other
  · exact of_flushes_flushStep hcall (h.took_flushStep hcall hstep) fun j other _ =>
      h.took_eq_nil j other
  · refine of_flushes_flushStep hcall ?_ fun j other hji hother old hold => ?_
    · exact fun old hold => hmono (h.covers_old_flushStep horderly haccounted hcall hstep hold)
    · -- any other flush that has looked would be inside
      have hin := Flush.inside_of_old? hold
      rw [horderly.outside_of_step hcall hstep hother hji] at hin
      cases hin
  · refine of_flushes_flushStep hcall ?_ fun j other _ hother hflushed => ?_
    · exact fun hflushed => hmono (h.covers_took_flushStep hcall hstep hflushed)
    · exact hmono (h.covers_took j other hother hflushed)

/-- **Every step delivers.** -/
theorem step (horderly : traffic.Orderly) (haccounted : traffic.Accounted)
    {traffic' : Traffic P} {action : Action} (hstep : traffic.step? action = some traffic') :
    traffic'.Delivered := by
  rcases step?_cases hstep with ⟨sample, -, -, rfl⟩ | ⟨sample, recording, -, -, rfl⟩ |
    ⟨finish, -, rfl⟩ | ⟨i, now, call, phase, recorder, -, hcall, hphase, rfl⟩
  · exact h.record sample
  · exact h.recordStep sample recording
  · exact h.flush finish
  · exact h.flushStep horderly haccounted hcall hphase

end Delivered

theorem delivered_new [ProfileStore P] (enabled : EnabledMetrics) (now : Instant) :
    (new enabled now : Traffic P).Delivered := by
  refine ⟨?_, ?_, ?_, ?_, ?_⟩
  · intro i call hcall
    cases hcall
  · intro i call hcall
    cases hcall
  · intro i
    constructor
    · intro hreturned
      cases hreturned
    · rintro ⟨call, hcall, -⟩
      cases hcall
  · intro i call hcall
    cases hcall
  · intro i call hcall
    cases hcall

/-- **The traffic delivers at all times.** -/
theorem delivered_after [ProfileStore P] (enabled : EnabledMetrics) (now : Instant)
    (actions : List Action) : ((new enabled now : Traffic P).after actions).Delivered :=
  after_induction (delivered_new enabled now) (fun actions _ _ h hstep =>
    h.step (orderly_after enabled now actions) (accounted_after enabled now actions) hstep) actions

end Traffic

end StackProfiler
