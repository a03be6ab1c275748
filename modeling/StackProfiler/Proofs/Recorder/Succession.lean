import Mathlib.Data.List.Chain
import StackProfiler.Proofs.Recorder.Contents
import StackProfiler.Proofs.Recorder.Flips
import StackProfiler.Proofs.Recorder.Settled
/-!
# Recorders — one period after the other

However calls overlap, a flush ends a period and begins the next one at one instant: the
profile that returns next begins where the one before it says (`Traffic.Succeeds`). What
carries this is where the two stores say they begin, by where the flush stands whose turn
it is (`Flush.Continues`). A recorder on which no flush is under way is settled, and a
flush on its own takes out of it what its active slot holds (`Filled.taken_eq`).
-/

namespace StackProfiler

/-! ## Where stores begin -/

/-- **Where the stores begin** in a period that has begun at `start`, while it is the turn
of a flush. -/
def Flush.Continues {P : Type} (starts : SlotId → Instant) (active : SlotId) (start : Instant) :
    Flush P → Prop
  | .entering | .looking | .done _ => starts active = start
  | .stamping old _ => starts old = start
  | .opening old now | .locking old now | .switching old now | .taking old now =>
    starts old = start ∧ starts old.other = now
  | .leaving flushed => flushed.start = start ∧ starts active = flushed.nextStart

namespace Traffic

/-- When the stores of a recorder begin. -/
def starts (recorder : Recorder Profile) (id : SlotId) : Instant := (stores recorder id).startTime

/-- Recordings do not change it. -/
theorem starts_recording (sample : Sample) (recorder : Recorder Profile) (recording : Recording) :
    starts (recording.step sample recorder).2 = starts recorder := by
  funext id
  rw [starts, stores_recording, starts]
  cases recording with
  | adding slot =>
    show (Function.update (stores recorder) slot _ id).startTime = _
    by_cases hid : id = slot
    · subst hid
      rw [Function.update_self]
      rfl
    · rw [Function.update_of_ne hid]
  | _ => rfl

/-- **A step of the flush whose turn it is** goes on with the period, and its last step
ends it. -/
theorem continues_step {recorder recorder' : Recorder Profile} {flush next : Flush Profile}
    {finish now start : Instant} (hremembers : flush.Remembers recorder.active)
    (h : flush.Continues (starts recorder) recorder.active start)
    (hstep : flush.step? finish now recorder = some (next, recorder')) :
    (next.result? = none ∧ next.Continues (starts recorder') recorder'.active start) ∨
      ∃ flushed, next = .done flushed ∧ flushed.start = start ∧
        next.Continues (starts recorder') recorder'.active flushed.nextStart := by
  have hstores := stores_flush hstep
  have hstarts : ∀ id, starts recorder' id =
      (storesAfter (stores recorder) flush.storeCall? id).startTime :=
    fun id => by rw [starts, hstores]
  cases Flush.makes_of_step? hstep with
  | enter hfree => exact .inl ⟨rfl, (hstarts _).trans h⟩
  | look => exact .inl ⟨rfl, h⟩
  | stamp old moment =>
    refine .inl ⟨rfl, ?_, ?_⟩
    · rw [hstarts]
      show (Function.update (stores recorder) old.other _ old).startTime = _
      rw [Function.update_of_ne old.ne_other]
      exact h
    · rw [hstarts]
      show (Function.update (stores recorder) old.other _ old.other).startTime = _
      rw [Function.update_self]
      rfl
  | unlock old moment => exact .inl ⟨rfl, (hstarts _).trans h.1, (hstarts _).trans h.2⟩
  | lock old moment hfree => exact .inl ⟨rfl, (hstarts _).trans h.1, (hstarts _).trans h.2⟩
  | switch old moment => exact .inl ⟨rfl, (hstarts _).trans h.1, (hstarts _).trans h.2⟩
  | take old moment =>
    refine .inl ⟨rfl, h.1, ?_⟩
    have hactive : recorder.active = old.other := hremembers
    rw [Recorder.setStore, Recorder.active_setSlot, hactive, ← Recorder.setStore, hstarts]
    show (Function.update (stores recorder) old _ old.other).startTime = _
    rw [Function.update_of_ne old.ne_other.symm]
    exact h.2
  | leave flushed => exact .inr ⟨flushed, rfl, h.1, (hstarts _).trans h.2⟩

/-! ## What flushes have returned -/

section Outcomes

variable {P : Type}

/-- What a flush has returned. -/
def outcome? (traffic : Traffic P) (i : Nat) : Option (Flushed P) :=
  traffic.flushes[i]?.bind fun call => call.phase.result?

/-- **What flushes have returned**, in the order in which they have. -/
def outcomes (traffic : Traffic P) : List (Flushed P) :=
  traffic.returned.filterMap traffic.outcome?

/-- When the period began that is under way: where the last one ended. -/
def periodStart (created : Instant) (traffic : Traffic P) : Instant :=
  (traffic.outcomes.getLast?.map Flushed.nextStart).getD created

theorem outcome?_of_done {traffic : Traffic P} {i : Nat} {call : FlushCall P}
    {flushed : Flushed P} (hcall : traffic.flushes[i]? = some call)
    (hdone : call.phase = .done flushed) : traffic.outcome? i = some flushed := by
  rw [outcome?, hcall, Option.bind_some, hdone]
  rfl

/-- A flush that is asked for has returned nothing. -/
theorem outcome?_flush (traffic : Traffic P) (finish : Instant) (since : Nat) :
    { traffic with flushes := traffic.flushes ++ [FlushCall.called finish since] }.outcome? =
      traffic.outcome? := by
  funext i
  rw [outcome?, outcome?]
  rcases Nat.lt_or_ge i traffic.flushes.length with hlt | hge
  · rw [List.getElem?_append_left hlt]
  · rw [List.getElem?_append_right hge, List.getElem?_eq_none hge]
    cases i - traffic.flushes.length <;> rfl

/-- **A step of a flush** adds what the flush returns, if it is its last. -/
theorem outcomes_flushStep {traffic : Traffic P} {i : Nat} {call : FlushCall P}
    (hcall : traffic.flushes[i]? = some call) (hopen : i ∉ traffic.returned) (phase : Flush P)
    (recorder : Recorder P) :
    (traffic.flushStep i call phase recorder).outcomes =
      traffic.outcomes ++ phase.result?.toList := by
  have hself : (traffic.flushStep i call phase recorder).outcome? i = phase.result? := by
    rw [outcome?, flushes_flushStep hcall, if_pos rfl]
    rfl
  have hothers : traffic.returned.filterMap (traffic.flushStep i call phase recorder).outcome? =
      traffic.outcomes := by
    refine List.filterMap_congr fun j hj => ?_
    rw [outcome?, flushes_flushStep hcall, if_neg, outcome?]
    rintro rfl
    exact hopen hj
  rw [outcomes]
  cases hresult : phase.result? with
  | none =>
    have hreturned : (traffic.flushStep i call phase recorder).returned = traffic.returned := by
      simp [Traffic.flushStep, hresult]
    rw [hreturned, hothers, Option.toList_none, List.append_nil]
  | some flushed =>
    have hreturned : (traffic.flushStep i call phase recorder).returned =
        traffic.returned ++ [i] := by
      simp [Traffic.flushStep, hresult]
    rw [hreturned, List.filterMap_append, hothers,
      List.filterMap_cons_some (hself.trans hresult), List.filterMap_nil, Option.toList_some]

end Outcomes

/-! ## One after the other -/

/-- **Periods succeed one another**: each begins where the one before it ends, the first
when the recorder was made, and the stores say so. -/
structure Succeeds (created : Instant) (traffic : Traffic Profile) : Prop where
  first : ∀ flushed, traffic.outcomes.head? = some flushed → flushed.start = created
  next : traffic.outcomes.IsChain fun before after => after.start = before.nextStart
  continues_of_inside : ∀ (i : Nat) (call : FlushCall Profile), traffic.flushes[i]? = some call →
    call.phase.inside = true →
    call.phase.Continues (starts traffic.recorder) traffic.recorder.active
      (traffic.periodStart created)
  continues_of_outside : (∀ (i : Nat) (call : FlushCall Profile),
    traffic.flushes[i]? = some call → call.phase.inside = false) →
    starts traffic.recorder traffic.recorder.active = traffic.periodStart created

namespace Succeeds

variable {created : Instant} {traffic : Traffic Profile} (h : traffic.Succeeds created)
include h

/-- **Whichever flush makes a step** goes on with the period. -/
theorem continues_of_step (horderly : traffic.Orderly) {i : Nat} {call : FlushCall Profile}
    (hcall : traffic.flushes[i]? = some call) {now : Instant}
    {next : Flush Profile × Recorder Profile}
    (hstep : call.phase.step? call.finish now traffic.recorder = some next) :
    call.phase.Continues (starts traffic.recorder) traffic.recorder.active
      (traffic.periodStart created) := by
  rcases call.phase.entering_or_inside_or_done with hentering | hinside | hresult
  · rw [hentering]
    refine h.continues_of_outside fun j other hother => ?_
    by_cases hji : j = i
    · subst hji
      obtain rfl := Option.some.inj (hcall.symm.trans hother)
      rw [hentering]
      rfl
    · exact horderly.outside_of_step hcall hstep hother hji
  · exact h.continues_of_inside i call hcall hinside
  · exact absurd hresult (Flush.result?_of_step? hstep)

/-- A flush may be asked for. -/
theorem flush (finish : Instant) (since : Nat) :
    { traffic with flushes :=
        traffic.flushes ++ [FlushCall.called finish since] }.Succeeds created := by
  have houtcomes : { traffic with flushes :=
      traffic.flushes ++ [FlushCall.called finish since] }.outcomes = traffic.outcomes :=
    congrArg traffic.returned.filterMap (traffic.outcome?_flush finish since)
  have hperiod : { traffic with flushes :=
      traffic.flushes ++ [FlushCall.called finish since] }.periodStart created =
        traffic.periodStart created := by
    rw [periodStart, houtcomes, periodStart]
  refine ⟨?_, ?_, ?_, ?_⟩
  · rw [houtcomes]
    exact h.first
  · rw [houtcomes]
    exact h.next
  · rw [hperiod]
    refine of_getElem?_concat h.continues_of_inside ?_
    intro hinside
    cases hinside
  · rw [hperiod]
    exact fun hout => h.continues_of_outside fun i call hcall =>
      hout i call (getElem?_concat_eq_some_iff.2 (.inl hcall))

/-- The recording may make a step. -/
theorem recordStep (sample : Sample) (recording : Recording) :
    (traffic.recordStep sample recording).Succeeds created := by
  have hstarts : starts (traffic.recordStep sample recording).recorder = starts traffic.recorder :=
    starts_recording sample traffic.recorder recording
  have hactive : (traffic.recordStep sample recording).recorder.active =
      traffic.recorder.active := Recording.active_step sample traffic.recorder recording
  refine ⟨h.first, h.next, ?_, ?_⟩
  · rw [hstarts, hactive]
    exact h.continues_of_inside
  · rw [hstarts, hactive]
    exact h.continues_of_outside

/-- A profile that begins with the period under way goes behind those that have
returned. -/
theorem outcomes_concat {flushed : Flushed Profile}
    (hstart : flushed.start = traffic.periodStart created) :
    (∀ before, (traffic.outcomes ++ [flushed]).head? = some before → before.start = created) ∧
      (traffic.outcomes ++ [flushed]).IsChain fun before after =>
        after.start = before.nextStart := by
  rw [periodStart] at hstart
  constructor
  · intro before hbefore
    cases houtcomes : traffic.outcomes with
    | nil =>
      rw [houtcomes] at hbefore hstart
      rw [← Option.some.inj hbefore]
      exact hstart
    | cons head rest =>
      rw [houtcomes] at hbefore
      exact h.first before (houtcomes ▸ hbefore)
  · refine List.isChain_append.2 ⟨h.next, List.isChain_singleton _, ?_⟩
    intro last hlast after hafter
    rw [Option.mem_def.1 hlast] at hstart
    rw [← Option.some.inj (Option.mem_def.1 hafter)]
    exact hstart

/-- **A flush may make a step**: the last one ends the period. -/
theorem flushStep (horderly : traffic.Orderly) (hdelivered : traffic.Delivered) {i : Nat}
    {call : FlushCall Profile} (hcall : traffic.flushes[i]? = some call) {now : Instant}
    {phase : Flush Profile} {recorder : Recorder Profile}
    (hstep : call.phase.step? call.finish now traffic.recorder = some (phase, recorder)) :
    (traffic.flushStep i call phase recorder).Succeeds created := by
  have houtcomes := outcomes_flushStep hcall (hdelivered.notMem_returned_of_step hcall hstep) phase
    recorder
  have hmoves := continues_step (horderly.poised_of_step hcall hstep).guarded.remembers
    (h.continues_of_step horderly hcall hstep) hstep
  -- whether the period goes on or the next one has begun, the flush is in it
  have hthere : phase.Continues (starts recorder) recorder.active
      ((traffic.flushStep i call phase recorder).periodStart created) := by
    rw [periodStart, houtcomes]
    rcases hmoves with ⟨hnone, hcontinues⟩ | ⟨flushed, rfl, -, hcontinues⟩
    · rw [hnone, Option.toList_none, List.append_nil]
      exact hcontinues
    · rw [Flush.result?, Option.toList_some, List.getLast?_concat]
      exact hcontinues
  have hothers : ∀ (j : Nat) (other : FlushCall Profile), j ≠ i →
      traffic.flushes[j]? = some other → other.phase.inside = false :=
    fun j other hji hother => horderly.outside_of_step hcall hstep hother hji
  have hchain : (∀ before, (traffic.flushStep i call phase recorder).outcomes.head? = some before →
      before.start = created) ∧ (traffic.flushStep i call phase recorder).outcomes.IsChain
        fun before after => after.start = before.nextStart := by
    rw [houtcomes]
    rcases hmoves with ⟨hnone, -⟩ | ⟨flushed, rfl, hstart, -⟩
    · rw [hnone, Option.toList_none, List.append_nil]
      exact ⟨h.first, h.next⟩
    · exact h.outcomes_concat hstart
  refine ⟨hchain.1, hchain.2, ?_, ?_⟩
  · refine of_flushes_flushStep hcall (fun _ => hthere) fun j other hji hother hinside => ?_
    rw [hothers j other hji hother] at hinside
    cases hinside
  · intro hout
    have hphase : phase.inside = false := hout i (call.stepped traffic.held phase) (by
      rw [flushes_flushStep hcall, if_pos rfl])
    cases phase <;> first | exact hthere | cases hphase

/-- **Every step goes on with the period.** -/
theorem step (horderly : traffic.Orderly) (hdelivered : traffic.Delivered)
    {traffic' : Traffic Profile} {action : Action} (hstep : traffic.step? action = some traffic') :
    traffic'.Succeeds created := by
  rcases step?_cases hstep with ⟨sample, -, -, rfl⟩ | ⟨sample, recording, -, -, rfl⟩ |
    ⟨finish, -, rfl⟩ | ⟨i, now, call, phase, recorder, -, hcall, hphase, rfl⟩
  · exact ⟨h.first, h.next, h.continues_of_inside, h.continues_of_outside⟩
  · exact h.recordStep sample recording
  · exact h.flush finish _
  · exact h.flushStep horderly hdelivered hcall hphase

end Succeeds

theorem succeeds_new (enabled : EnabledMetrics) (created : Instant) :
    (new enabled created : Traffic Profile).Succeeds created where
  first := by
    intro flushed hflushed
    cases hflushed
  next := List.isChain_nil
  continues_of_inside := by
    intro i call hcall
    cases hcall
  continues_of_outside := fun _ => rfl

/-- **However calls overlap, periods succeed one another.** -/
theorem succeeds_after (enabled : EnabledMetrics) (created : Instant) (actions : List Action) :
    ((new enabled created).after actions : Traffic Profile).Succeeds created :=
  after_induction (succeeds_new enabled created)
    (fun actions _ _ h hstep => h.step (orderly_after enabled created actions)
      (delivered_after enabled created actions) hstep) actions

/-! ## Behind one profile -/

namespace Succeeds

variable {created : Instant} {traffic : Traffic Profile} (h : traffic.Succeeds created)
include h

/-- **The profile that returns next** begins where the one before it says. -/
theorem start_of_follows {i j : Nat} (hfollows : traffic.Follows i j)
    {before after : Flushed Profile} (hbefore : traffic.outcome? i = some before)
    (hafter : traffic.outcome? j = some after) : after.start = before.nextStart := by
  obtain ⟨front, rest, hreturned⟩ := hfollows
  have hnext := h.next
  rw [outcomes, hreturned, List.filterMap_append, List.filterMap_cons_some hbefore,
    List.filterMap_cons_some hafter] at hnext
  exact (List.isChain_append_cons_cons.1 hnext).2.1

/-- **Until then** the active store says so, while no flush is inside. -/
theorem starts_active_of_last {i : Nat} (hlast : traffic.returned.getLast? = some i)
    {before : Flushed Profile} (hbefore : traffic.outcome? i = some before)
    (hout : ∀ (j : Nat) (call : FlushCall Profile), traffic.flushes[j]? = some call →
      call.phase.inside = false) :
    starts traffic.recorder traffic.recorder.active = before.nextStart := by
  have houtcomes : traffic.outcomes.getLast? = some before := by
    rw [outcomes, ← List.dropLast_append_getLast? i hlast, List.filterMap_append,
      List.filterMap_cons_some hbefore]
    exact List.getLast?_concat
  rw [h.continues_of_outside hout, periodStart, houtcomes]
  rfl

end Succeeds

/-! ## A recorder that is left alone -/

/-- **While no flush is inside**, the slot that is not active is held back, and the active
one is locked only by a recording that is in it. -/
theorem Orderly.locks_of_outside {P : Type} {traffic : Traffic P} (h : traffic.Orderly)
    (hout : ∀ (i : Nat) (call : FlushCall P), traffic.flushes[i]? = some call →
      call.phase.inside = false) :
    traffic.recorder.flushing = false ∧
      (traffic.recorder.slot traffic.recorder.active.other).locked = true ∧
      ((traffic.recorder.slot traffic.recorder.active).locked = true ↔
        traffic.holding = some traffic.recorder.active) := by
  have hguarded := (h.poised_of_outside hout).guarded
  refine ⟨hguarded.flushing, (hguarded.locked_iff _).2 (.inl rfl), ?_⟩
  refine (hguarded.locked_iff _).trans (or_iff_right fun hreserved => ?_)
  exact traffic.recorder.active.ne_other (Option.some.inj hreserved).symm

/-- Without a recording it is settled. -/
theorem Orderly.settled_of_outside {P : Type} {traffic : Traffic P} (h : traffic.Orderly)
    (hout : ∀ (i : Nat) (call : FlushCall P), traffic.flushes[i]? = some call →
      call.phase.inside = false) (hrecording : traffic.recording = none) :
    traffic.recorder.Settled := by
  obtain ⟨hflushing, hother, hactive⟩ := h.locks_of_outside hout
  refine ⟨hflushing, Bool.eq_false_iff.2 fun hlocked => ?_, hother⟩
  have hholding := hactive.1 hlocked
  rw [holding, hrecording] at hholding
  cases hholding

/-- **What a flush takes out then** is what the active slot holds. -/
theorem Filled.taken_eq {traffic : Traffic Profile} {valueTypes : List Metric}
    (h : traffic.Filled valueTypes) {start : Instant}
    (hstart : starts traffic.recorder traffic.recorder.active = start) (finish now : Instant) :
    traffic.recorder.taken finish now = ⟨start, finish, now,
      Profile.gathered valueTypes start
        ((traffic.held traffic.recorder.active).map Numbered.sample)⟩ := by
  obtain ⟨start', hstore⟩ := h.holds traffic.recorder.active
  have hsame : start' = start := by
    rw [← hstart, starts, hstore, Profile.startTime_gathered]
  subst hsame
  have hprofile : (ProfileStore.reset now
      (traffic.recorder.slot traffic.recorder.active).store).1 = Profile.gathered valueTypes start'
        ((traffic.held traffic.recorder.active).map Numbered.sample) := hstore
  have hbegins : ProfileStore.startTime (Profile.gathered valueTypes start'
      ((traffic.held traffic.recorder.active).map Numbered.sample)) = start' :=
    Profile.startTime_gathered ..
  rw [Recorder.taken, hprofile, hbegins]

end Traffic

end StackProfiler
