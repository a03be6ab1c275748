import StackProfiler.Proofs.Scheduler.Agreement
/-!
# Flush schedulers — how a thread is stopped

The thread reads the stop flag as raised only when it is, and from then on it does not
wait (`Service.Signalled`). So after the flag is raised it asks for one flush more and
ends behind it, and at most one that it had asked for before has still to begin.
-/

namespace StackProfiler

namespace Traffic

variable {P : Type} [ProfileStore P]

/-- Recordings that have returned are not forgotten. -/
theorem recorded_length_le_of_step? {traffic traffic' : Traffic P} {action : Action}
    (h : traffic.step? action = some traffic') :
    traffic.recorded.length ≤ traffic'.recorded.length := by
  rcases step?_cases h with ⟨sample, -, -, rfl⟩ | ⟨sample, recording, -, -, rfl⟩ |
    ⟨finish, -, rfl⟩ | ⟨i, now, call, phase, recorder, -, -, -, rfl⟩
  · exact Nat.le_refl _
  · rw [recordStep, List.length_append]
    exact Nat.le_add_right _ _
  · exact Nat.le_refl _
  · exact Nat.le_refl _

/-- Nor is when a flush was called. -/
theorem since_of_step? {traffic traffic' : Traffic P} {action : Action}
    (h : traffic.step? action = some traffic') {i : Nat} {call : FlushCall P}
    (hcall : traffic.flushes[i]? = some call) :
    ∃ call', traffic'.flushes[i]? = some call' ∧ call'.since = call.since := by
  rcases step?_cases h with ⟨sample, -, -, rfl⟩ | ⟨sample, recording, -, -, rfl⟩ |
    ⟨finish, -, rfl⟩ | ⟨j, now, other, phase, recorder, -, hother, -, rfl⟩
  · exact ⟨call, hcall, rfl⟩
  · exact ⟨call, hcall, rfl⟩
  · exact ⟨call, getElem?_concat_eq_some_iff.2 (.inl hcall), rfl⟩
  · rw [flushes_flushStep hother]
    by_cases hij : i = j
    · subst hij
      obtain rfl := Option.some.inj (hcall.symm.trans hother)
      exact ⟨_, if_pos rfl, rfl⟩
    · exact ⟨call, by rw [if_neg hij, hcall], rfl⟩

end Traffic

namespace Service

variable {P : Type}

/-! ## How many flushes have begun -/

section Begun

variable [ProfileStore P]

/-- A flush that is settled has begun. -/
theorem Settled.hasBegun {service : Service P} {own : OwnFlush}
    (h : service.Settled own.number) : service.hasBegun own = true := by
  obtain ⟨call, flushed, hcall, hdone, -⟩ := h
  rw [Service.hasBegun, hcall, Option.map_some, hdone]
  rfl

namespace Tied

variable {service : Service P} (h : service.Tied)
include h

/-- At most one of them has still to begin. -/
theorem length_le_begun : service.own.length ≤ service.begun + 1 := by
  have hpast : service.own.dropLast.countP service.hasBegun = service.own.dropLast.length :=
    List.countP_eq_length.2 fun own hmem => (h.past_of_mem_dropLast own hmem).settled.hasBegun
  have hle := (List.dropLast_sublist service.own).countP_le (p := service.hasBegun)
  rw [List.length_dropLast] at hpast
  rw [begun]
  omega

/-- Before all of them but the last the flag was read as not raised. -/
theorem countP_stopping {i : Nat} {stopping : Bool} (hlast : service.Last i stopping) :
    service.own.countP OwnFlush.stopping = stopping.toNat := by
  have hpast : service.own.dropLast.countP OwnFlush.stopping = 0 := by
    refine List.countP_eq_zero.2 fun own hmem => ?_
    rw [(h.past_of_mem_dropLast own hmem).goesOn]
    exact Bool.false_ne_true
  rw [← hlast.own_eq, List.countP_append, hpast, List.countP_singleton]
  cases stopping <;> rfl

/-- It was read as raised once at most. -/
theorem countP_stopping_le : service.own.countP OwnFlush.stopping ≤ 1 := by
  cases hgetLast : service.own.getLast? with
  | none =>
    rw [List.getLast?_eq_none_iff.1 hgetLast]
    exact Nat.zero_le _
  | some own =>
    have hlast : service.Last own.number own.stopping := ⟨hgetLast, h.past_of_mem_dropLast⟩
    rw [h.countP_stopping hlast]
    exact own.stopping.toNat_le

end Tied

end Begun

/-! ## The flag -/

/-- **The flag and the thread**: the flag is raised in a call that stops the scheduler,
the thread reads it as it is, and once it is raised no wait begins. -/
structure Signalled (service : Service P) : Prop where
  requested : service.scheduler.stopRequested = service.mark.isSome
  called : service.mark.isSome → service.stopCall.isSome
  since_le : ∀ since, service.stopCall = some since → since ≤ service.traffic.recorded.length
  /-- Until it is raised the thread has not read it as raised. -/
  unread : service.mark = none → ∀ own ∈ service.own, own.stopping = false
  /-- A flush before which it was read as raised was asked for after the call. -/
  since_of_stopping : ∀ own ∈ service.own, own.stopping = true →
    ∃ since call, service.stopCall = some since ∧
      service.traffic.flushes[own.number]? = some call ∧ since ≤ call.since
  /-- Since it was raised no wait has begun. -/
  waits_eq : ∀ mark, service.mark = some mark → service.waits = mark.waits
  /-- And before every flush that was asked for since then it was read as raised. -/
  length_own : ∀ mark, service.mark = some mark →
    service.own.length = mark.asked + service.own.countP OwnFlush.stopping
  /-- Then at most one of those asked for before had still to begin. -/
  begun_le : ∀ mark, service.mark = some mark →
    mark.begun ≤ mark.asked ∧ mark.asked ≤ mark.begun + 1
  /-- The stopping call waits for the thread. -/
  ended : service.returned = true →
    service.mark.isSome ∧ service.scheduler.thread.ended = true

theorem signalled_started (traffic : Traffic P) (interval : Duration) :
    (started traffic ⟨interval, false, .new⟩).Signalled where
  requested := rfl
  called := by
    intro hmark
    cases hmark
  since_le := by
    intro since hcall
    cases hcall
  unread := fun _ _ hmem => absurd hmem List.not_mem_nil
  since_of_stopping := fun _ hmem => absurd hmem List.not_mem_nil
  waits_eq := by
    intro mark hmark
    cases hmark
  length_own := by
    intro mark hmark
    cases hmark
  begun_le := by
    intro mark hmark
    cases hmark
  ended := by
    intro hreturned
    cases hreturned

namespace Signalled

variable {service : Service P} (h : service.Signalled)
include h

/-- The thread moves on. -/
theorem setThread (hended : service.scheduler.thread.ended = false) (thread : FlushThread P)
    (exports : List Nat) :
    Signalled { service with
      scheduler := { service.scheduler with thread := thread }
      exports := exports } where
  requested := h.requested
  called := h.called
  since_le := h.since_le
  unread := h.unread
  since_of_stopping := h.since_of_stopping
  waits_eq := h.waits_eq
  length_own := h.length_own
  begun_le := h.begun_le
  ended := by
    intro hreturned
    have htrue := (h.ended hreturned).2
    rw [hended] at htrue
    cases htrue

/-- The thread begins to wait only while the flag is not raised. -/
theorem wait (hflag : service.scheduler.stopRequested = false) (waits : Nat) :
    { service with waits := waits }.Signalled where
  requested := h.requested
  called := h.called
  since_le := h.since_le
  unread := h.unread
  since_of_stopping := h.since_of_stopping
  waits_eq := by
    intro mark hmark
    have hraised := h.requested
    rw [hflag, show service.mark = some mark from hmark] at hraised
    cases hraised
  length_own := h.length_own
  begun_le := h.begun_le
  ended := h.ended

/-- **The thread asks for a flush** with the flag as it is. -/
theorem ask (hlt : ∀ own ∈ service.own, own.number < service.traffic.flushes.length)
    (now : Instant) :
    Signalled { service with
      traffic := { service.traffic with
        flushes := service.traffic.flushes ++ [.called now service.traffic.recorded.length] }
      own := service.own ++
        [⟨service.traffic.flushes.length, service.scheduler.stopRequested⟩] } where
  requested := h.requested
  called := h.called
  since_le := h.since_le
  unread := by
    intro hnone own hmem
    rcases List.mem_append.1 hmem with hmem | hmem
    · exact h.unread hnone own hmem
    · rw [List.mem_singleton.1 hmem, h.requested, show service.mark = none from hnone]
      rfl
  since_of_stopping := by
    intro own hmem hstopping
    rcases List.mem_append.1 hmem with hmem | hmem
    · obtain ⟨since, call, hcall, hflush, hle⟩ := h.since_of_stopping own hmem hstopping
      exact ⟨since, call, hcall, (List.getElem?_append_left (hlt own hmem)).trans hflush, hle⟩
    · obtain rfl := List.mem_singleton.1 hmem
      have hraised : service.mark.isSome := h.requested.symm.trans hstopping
      obtain ⟨since, hcall⟩ := Option.isSome_iff_exists.1 (h.called hraised)
      exact ⟨since, _, hcall, List.getElem?_concat_length, h.since_le since hcall⟩
  waits_eq := h.waits_eq
  length_own := by
    intro mark hmark
    have hraised : service.scheduler.stopRequested = true := by
      rw [h.requested, show service.mark = some mark from hmark]
      rfl
    have hlength := h.length_own mark hmark
    rw [List.length_append, List.countP_append, hlength, hraised]
    rfl
  begun_le := h.begun_le
  ended := h.ended

variable [ProfileStore P]

/-- **Steps of calls on the recorder** have nothing to do with the flag. -/
theorem call {action : Traffic.Action} {traffic : Traffic P}
    (hstep : service.traffic.step? action = some traffic) :
    { service with traffic := traffic }.Signalled where
  requested := h.requested
  called := h.called
  since_le := fun since hcall =>
    Nat.le_trans (h.since_le since hcall) (Traffic.recorded_length_le_of_step? hstep)
  unread := h.unread
  since_of_stopping := by
    intro own hmem hstopping
    obtain ⟨since, call, hcall, hflush, hle⟩ := h.since_of_stopping own hmem hstopping
    obtain ⟨call', hflush', hsince⟩ := Traffic.since_of_step? hstep hflush
    exact ⟨since, call', hcall, hflush', hsince.symm ▸ hle⟩
  waits_eq := h.waits_eq
  length_own := h.length_own
  begun_le := h.begun_le
  ended := h.ended

/-- **A step of the thread** heeds the flag. -/
theorem thread (htied : service.Tied) {now : Instant} {service' : Service P}
    (hmakes : service.ThreadMakes now service.scheduler.thread.phase service') :
    service'.Signalled := by
  have hended := hmakes.ended_eq_false
  have hmoved : ∀ phase, (service.setPhase phase).Signalled := fun phase =>
    h.setThread hended ⟨phase, service.scheduler.thread.exported⟩ service.exports
  generalize service.scheduler.thread.phase = phase at hmakes
  cases hmakes with
  | start => exact hmoved _
  | skipWait hflag => exact hmoved _
  | wait hflag => exact (hmoved .waiting).wait hflag _
  | wake => exact hmoved _
  | ask => exact (hmoved (.flushing _ now .entering)).ask htied.lt_length now
  | flush stopping i call phase recorder hlast hcall hstep hnew =>
    have htraffic : service.traffic.step? (.flushStep i now) =
        some (service.traffic.flushStep i call phase recorder) := by
      simp [Traffic.step?, hcall, hstep]
    exact (hmoved _).call htraffic
  | skip stopping finish flushed hempty => exact hmoved _
  | handOver stopping finish flushed hfull => exact hmoved _
  | deliver stopping i flushed hlast => exact h.setThread hended _ _
  | resume => exact hmoved _
  | exit => exact hmoved _

omit [ProfileStore P] in
/-- The scheduler is told to stop. -/
theorem stop (hnone : service.stopCall = none) :
    { service with stopCall := some service.traffic.recorded.length }.Signalled := by
  have hmark : service.mark = none := by
    refine Option.not_isSome_iff_eq_none.1 fun hraised => ?_
    have hcalled := h.called hraised
    rw [hnone] at hcalled
    cases hcalled
  refine { h with called := ?_, since_le := ?_, since_of_stopping := ?_ }
  · exact fun _ => rfl
  · intro since hcall
    exact Nat.le_of_eq (Option.some.inj hcall).symm
  · intro own hmem hstopping
    rw [h.unread hmark own hmem] at hstopping
    cases hstopping

/-- **The flag is raised**: the thread has not read it as raised before. -/
theorem raise (htied : service.Tied) (hcalled : service.stopCall.isSome)
    (hnone : service.mark = none) :
    Signalled { service with
      scheduler := { service.scheduler with stopRequested := true }
      mark := some ⟨service.own.length, service.begun, service.waits⟩ } where
  requested := rfl
  called := fun _ => hcalled
  since_le := h.since_le
  unread := by
    intro hmark
    cases hmark
  since_of_stopping := h.since_of_stopping
  waits_eq := by
    intro mark hmark
    rw [← Option.some.inj hmark]
  length_own := by
    intro mark hmark
    have hunread : service.own.countP OwnFlush.stopping = 0 :=
      List.countP_eq_zero.2 fun own hmem => by
        rw [h.unread hnone own hmem]
        exact Bool.false_ne_true
    rw [← Option.some.inj hmark]
    show service.own.length = service.own.length + service.own.countP OwnFlush.stopping
    omega
  begun_le := by
    intro mark hmark
    rw [← Option.some.inj hmark]
    exact ⟨List.countP_le_length, htied.length_le_begun⟩
  ended := by
    intro hreturned
    have hraised := (h.ended hreturned).1
    rw [hnone] at hraised
    cases hraised

/-- **Every step heeds the flag.** -/
theorem step (htied : service.Tied) {service' : Service P} {action : Action}
    (hstep : service.step? action = some service') : service'.Signalled := by
  rcases step?_cases hstep with ⟨call, traffic, -, -, htraffic, rfl⟩ | ⟨now, next, -, hnext, rfl⟩ |
    ⟨-, hnone, rfl⟩ | ⟨-, hcalled, hnone, hfree, rfl⟩ | ⟨-, hraised, hended, -, rfl⟩
  · exact h.call htraffic
  · exact h.thread htied (htied.threadMakes hnext)
  · exact h.stop hnone
  · exact h.raise htied hcalled hnone
  · exact { h with ended := fun _ => ⟨hraised, hended⟩ }

end Signalled

end Service

end StackProfiler
