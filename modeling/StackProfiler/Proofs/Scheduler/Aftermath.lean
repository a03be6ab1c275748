import StackProfiler.Proofs.Recorder.Succession
import StackProfiler.Proofs.Scheduler.Ordering
import StackProfiler.Proofs.Scheduler.Whereabouts
/-!
# Flush schedulers — what a panic costs

A panic of the exporter costs the profile that it was given, and the thread
(`Service.Withstands`). The recorder is left as by any flush: one slot is held back, and
whatever is recorded after the flush had its lock waits in the other one for the flush
that comes next, which goes on where the lost profile ends.
-/

namespace StackProfiler

namespace Service

/-! ## The profile that is lost -/

section Lost

variable {P : Type}

/-- **The profile that is lost**: the exporter has panicked over what this flush has
returned. -/
structure Lost (service : Service P) (i : Nat) (lost : Flushed P) : Prop where
  panicked : service.scheduler.thread.phase = .panicked
  exports : service.exports.getLast? = some i
  exported : service.scheduler.thread.exported.getLast? = some lost

/-- **Nobody else is in a flush.** -/
def Undisturbed (service : Service P) : Prop :=
  ∀ (i : Nat) (call : FlushCall P), service.traffic.flushes[i]? = some call →
    i ∉ service.own.map OwnFlush.number → call.phase.inside = false

variable [ProfileStore P] {panics : Nat → Bool}

/-- **The exporter is brought down** by the next profile that is not empty, if it does not
return from that call. -/
theorem afterWith_handOver {service : Service P} {stopping : Bool} {finish : Instant}
    {flushed : Flushed P}
    (hphase : service.scheduler.thread.phase = .flushing stopping finish (.done flushed))
    (hfull : ProfileStore.isEmpty flushed.profile = false)
    (hpanics : panics (service.scheduler.thread.exported.length + 1) = true) (now : Instant) :
    service.afterWith panics [.thread now, .thread now] = { service with
      scheduler := { service.scheduler with
        thread := ⟨.panicked, service.scheduler.thread.exported ++ [flushed]⟩ }
      exports := service.exports ++ (service.own.getLast?.map OwnFlush.number).toList } := by
  obtain ⟨traffic, ⟨interval, stopRequested, ⟨phase, exported⟩⟩, own, exports, waits, stopCall,
    mark, returned⟩ := service
  obtain rfl : phase = .flushing stopping finish (.done flushed) := hphase
  have hpanics : panics (exported.length + 1) = true := hpanics
  simp [afterWith, stepWith?, FlushThread.step?, Flush.result?, hfull, threadStep, threadAction?,
    ownAfter, exportsAfter, FlushThread.waits, hpanics]

namespace Fallen

variable {service : Service P} (h : service.Fallen panics)
include h

/-- There is one. -/
theorem exists_lost : ∃ i lost, service.Lost i lost := by
  obtain ⟨stopping, htied⟩ := h.tied
  have hexported : service.scheduler.thread.exported ≠ [] := List.ne_nil_of_length_pos h.pos
  have hexports : service.exports ≠ [] := by
    refine List.ne_nil_of_length_pos ?_
    have hlength : service.exports.length = service.scheduler.thread.exported.length :=
      htied.exports_length
    rw [hlength]
    exact h.pos
  exact ⟨_, _, h.phase_eq, List.getLast?_eq_getLast_of_ne_nil hexports,
    List.getLast?_eq_getLast_of_ne_nil hexported⟩

/-- It is what a flush of the thread has returned, and not empty. -/
theorem exported_of_lost {i : Nat} {lost : Flushed P} (hlost : service.Lost i lost) :
    service.Exported i lost := by
  obtain ⟨stopping, htied⟩ := h.tied
  have hlength : service.exports.length = service.scheduler.thread.exported.length :=
    htied.exports_length
  have hexports := hlost.exports
  have hexported := hlost.exported
  rw [List.getLast?_eq_getElem?] at hexports hexported
  exact (htied.exported _ i lost hexports (hlength ▸ hexported)).congr (List.Subset.refl _) rfl

/-- All flushes of the thread are behind it. -/
theorem settled {own : OwnFlush} (hmem : own ∈ service.own) : service.Settled own.number := by
  obtain ⟨stopping, htied⟩ := h.tied
  obtain ⟨i, hlast, hsettled⟩ : ∃ i, (service.setPhase (.resuming stopping)).Last i stopping ∧
    (service.setPhase (.resuming stopping)).Settled i := htied.stands
  have hown : own ∈ (service.setPhase (.resuming stopping)).own := hmem
  rw [← hlast.own_eq] at hown
  rcases List.mem_append.1 hown with hbefore | hown
  · exact (hlast.past own hbefore).settled
  · rw [List.mem_singleton.1 hown]
    exact hsettled

/-- So if nobody else is inside no flush is. -/
theorem outside (hundisturbed : service.Undisturbed) (i : Nat) (call : FlushCall P)
    (hcall : service.traffic.flushes[i]? = some call) : call.phase.inside = false := by
  by_cases hown : i ∈ service.own.map OwnFlush.number
  · obtain ⟨own, hmem, rfl⟩ := List.mem_map.1 hown
    obtain ⟨other, flushed, hother, hdone, -⟩ := h.settled hmem
    obtain rfl := Option.some.inj (hcall.symm.trans hother)
    rw [hdone]
    rfl
  · exact hundisturbed i call hcall hown

end Fallen

end Lost

/-! ## At every moment -/

/-- **What every step keeps**: the exporter has panicked or not, and the recorder is one
in use. -/
structure Upheld (panics : Nat → Bool) (enabled : EnabledMetrics) (created : Instant)
    (service : Service Profile) : Prop where
  endures : service.Endures panics
  reached : ∃ calls, service.traffic = (Traffic.new enabled created).after calls
  ordered : service.Ordered

namespace Upheld

variable {panics : Nat → Bool} {enabled : EnabledMetrics} {created : Instant}
variable {service : Service Profile} (h : service.Upheld panics enabled created)
include h

theorem orderly : service.traffic.Orderly := by
  obtain ⟨calls, hreached⟩ := h.reached
  rw [hreached]
  exact Traffic.orderly_after enabled created calls

theorem accounted : service.traffic.Accounted := by
  obtain ⟨calls, hreached⟩ := h.reached
  rw [hreached]
  exact Traffic.accounted_after enabled created calls

theorem delivered : service.traffic.Delivered := by
  obtain ⟨calls, hreached⟩ := h.reached
  rw [hreached]
  exact Traffic.delivered_after enabled created calls

theorem filled : service.traffic.Filled enabled.valueTypes := by
  obtain ⟨calls, hreached⟩ := h.reached
  rw [hreached]
  exact Traffic.filled_after enabled created calls

theorem succeeds : service.traffic.Succeeds created := by
  obtain ⟨calls, hreached⟩ := h.reached
  rw [hreached]
  exact Traffic.succeeds_after enabled created calls

theorem nodup_returned : service.traffic.returned.Nodup := by
  obtain ⟨calls, hreached⟩ := h.reached
  rw [hreached]
  exact Traffic.nodup_returned_after enabled created calls

/-- Every step keeps it. -/
theorem step {service' : Service Profile} {action : Action}
    (hstep : service.stepWith? panics action = some service') :
    service'.Upheld panics enabled created where
  endures := h.endures.step hstep
  reached := Traffic.exists_after_of_step h.reached (h.endures.traffic_of_stepWith? hstep)
  ordered := h.ordered.step h.endures h.delivered hstep

/-- **So it is kept** whatever happens. -/
theorem afterWith (actions : List Action) :
    (service.afterWith panics actions).Upheld panics enabled created :=
  afterWith_induction h (fun _ _ _ hbefore hstep => hbefore.step hstep) actions

/-- **A recorded sample is in exactly one profile.** -/
theorem existsUnique_whereabouts {entry : Numbered} (haccepted : service.traffic.Accepted entry) :
    ∃! whereabouts, entry ∈ service.samplesAt whereabouts := by
  rcases h.endures with hunharmed | hfallen
  · exact hunharmed.tied.existsUnique_whereabouts (hunharmed.tied.exhausted h.filled) h.accounted
      haccepted
  · obtain ⟨stopping, htied⟩ := hfallen.tied
    exact htied.existsUnique_whereabouts (htied.exhausted h.filled) h.accounted haccepted

/-- **Behind a panic** none is on its way. -/
theorem onTheWay_eq_nil (hphase : service.scheduler.thread.phase = .panicked) :
    service.samplesAt .onTheWay = [] := by
  have hfallen := h.endures.fallen hphase
  refine List.eq_nil_iff_forall_not_mem.2 fun entry hmem => ?_
  obtain ⟨own, hlast, hnew, hsamples⟩ := exists_own_of_onTheWay hmem
  rw [hsamples,
    (hfallen.settled (List.mem_of_getLast? hlast)).tookBy_eq_nil h.filled hnew] at hmem
  cases hmem

/-- **The profile that is lost** comprises what its flush has taken, and that is
something. -/
theorem comprises_of_lost {i : Nat} {lost : Flushed Profile} (hlost : service.Lost i lost) :
    lost.profile.Comprises enabled.valueTypes lost.start
        ((service.traffic.tookBy i).map Numbered.sample) ∧
      service.traffic.tookBy i ≠ [] := by
  obtain ⟨-, ⟨call, hcall, hdone⟩, hfull⟩ :=
    (h.endures.fallen hlost.panicked).exported_of_lost hlost
  refine ⟨h.filled.comprises_tookBy hcall (hdone ▸ rfl), fun hnothing => ?_⟩
  rw [(isEmpty_iff_tookBy h.filled hcall hdone).2 hnothing] at hfull
  cases hfull

/-- **A profile that holds a sample is lost** if the exporter does not return from the call
that it is given it. -/
theorem lost_of_handOver {stopping : Bool} {finish : Instant} {flushed : Flushed Profile}
    (hphase : service.scheduler.thread.phase = .flushing stopping finish (.done flushed))
    (own : OwnFlush) (hlast : service.own.getLast? = some own)
    (hsome : service.traffic.tookBy own.number ≠ [])
    (hpanics : panics (service.scheduler.thread.exported.length + 1) = true) (now : Instant) :
    (service.afterWith panics [.thread now, .thread now]).Lost own.number flushed ∧
      (service.afterWith panics [.thread now, .thread now]).traffic = service.traffic ∧
      (service.afterWith panics [.thread now, .thread now]).own = service.own := by
  have htied : service.Tied := by
    rcases h.endures with hunharmed | hfallen
    · exact hunharmed.tied
    · have hended := hfallen.phase_eq
      rw [hphase] at hended
      cases hended
  have hstands := htied.stands
  rw [hphase] at hstands
  obtain ⟨i, call, hi, hcall, -, hdone, -⟩ := hstands
  obtain rfl : i = own.number := congrArg OwnFlush.number (hi.eq_of_getLast? hlast)
  have hfull : ProfileStore.isEmpty flushed.profile = false :=
    Bool.eq_false_iff.2 fun hempty => hsome ((isEmpty_iff_tookBy h.filled hcall hdone).1 hempty)
  rw [afterWith_handOver hphase hfull hpanics now, hlast]
  exact ⟨⟨rfl, List.getLast?_concat, List.getLast?_concat⟩, rfl, rfl⟩

/-- It is the last one that the exporter was given. -/
theorem samplesAt_of_lost {i : Nat} {lost : Flushed Profile} (hlost : service.Lost i lost) :
    service.samplesAt (.exported (service.scheduler.thread.exported.length - 1)) =
      service.traffic.tookBy i := by
  obtain ⟨stopping, htied⟩ := (h.endures.fallen hlost.panicked).tied
  have hlength : service.exports.length = service.scheduler.thread.exported.length :=
    htied.exports_length
  have hexports := hlost.exports
  rw [List.getLast?_eq_getElem?, hlength] at hexports
  rw [samplesAt, hexports]
  rfl

/-- **The flush that returned it** is the last that has returned, if nobody but the thread
has flushed. -/
theorem getLast?_returned_of_lost {i : Nat} {lost : Flushed Profile}
    (hlost : service.Lost i lost)
    (halone : ∀ j ∈ service.traffic.returned, j ∈ service.own.map OwnFlush.number) :
    service.traffic.returned.getLast? = some i := by
  have hfallen := h.endures.fallen hlost.panicked
  have hall : ∀ own ∈ service.own, own.number ∈ service.traffic.returned := by
    intro own hmem
    obtain ⟨call, flushed, hcall, hdone, -⟩ := hfallen.settled hmem
    exact (h.delivered.mem_returned_iff _).2 ⟨call, hcall, hdone ▸ rfl⟩
  rw [h.ordered.getLast?_returned hall halone, ← hfallen.exports_getLast?]
  exact hlost.exports

/-! ## Behind the flush that was lost -/

/-- **What is accepted after the flush had its lock** does not go out with it, and waits
in the active slot for the flush that comes next. -/
theorem stays {later : List Action} {i : Nat} {lost : Flushed Profile}
    (hlost : (service.afterWith panics later).Lost i lost) (hlocked : service.traffic.HasLocked i)
    {entry : Numbered} (haccepted : (service.afterWith panics later).traffic.Accepted entry)
    (hnew : ¬ service.traffic.Accepted entry) :
    entry ∉ (service.afterWith panics later).traffic.tookBy i ∧
      ((service.afterWith panics later).Undisturbed →
        (service.afterWith panics later).traffic.returned.getLast? = some i →
          entry ∈ (service.afterWith panics later).samplesAt
            (.store (service.afterWith panics later).traffic.recorder.active)) := by
  have hlater := h.afterWith later
  obtain ⟨calls, hcalls⟩ := h.endures.exists_calls later
  have hfallen := hlater.endures.fallen hlost.panicked
  constructor
  · intro htook
    rw [hcalls] at htook
    exact hnew (hlocked.accepted_of_mem_tookBy h.orderly h.accounted h.delivered calls htook)
  · intro hundisturbed hlast
    have hout := hfallen.outside hundisturbed
    have hdelivered := hlater.delivered
    have horderly := hlater.orderly
    have haccounted := hlater.accounted
    have hnodup := hlater.nodup_returned
    show entry ∈ (service.afterWith panics later).traffic.held _
    rw [hcalls] at hdelivered horderly haccounted hnodup hlast hout haccepted ⊢
    exact hlocked.mem_held_of_last h.orderly h.accounted h.delivered calls hdelivered horderly
      haccounted hnodup hlast hout haccepted hnew

/-- **The flush that returns next** goes on where the lost profile ends, and takes what
had been recorded when it was called. -/
theorem follows {later : List Action} {i : Nat} {lost : Flushed Profile}
    (hlost : (service.afterWith panics later).Lost i lost) {j : Nat}
    (hfollows : (service.afterWith panics later).traffic.Follows i j)
    {call : FlushCall Profile} {next : Flushed Profile}
    (hcall : (service.afterWith panics later).traffic.flushes[j]? = some call)
    (hdone : call.phase = .done next) :
    next.start = lost.nextStart ∧
      next.profile.Comprises enabled.valueTypes lost.nextStart
        (((service.afterWith panics later).traffic.tookBy j).map Numbered.sample) ∧
      (service.traffic.HasLocked i → ∀ number sample, number < call.since →
        (service.afterWith panics later).traffic.recorded[number]? = some ⟨sample, .ok ()⟩ →
          ¬ service.traffic.Accepted ⟨number, sample⟩ →
            ⟨number, sample⟩ ∈ (service.afterWith panics later).traffic.tookBy j) := by
  have hlater := h.afterWith later
  obtain ⟨calls, hcalls⟩ := h.endures.exists_calls later
  obtain ⟨-, ⟨other, hother, hlostDone⟩, -⟩ :=
    (hlater.endures.fallen hlost.panicked).exported_of_lost hlost
  have hstart : next.start = lost.nextStart :=
    hlater.succeeds.start_of_follows hfollows (Traffic.outcome?_of_done hother hlostDone)
      (Traffic.outcome?_of_done hcall hdone)
  refine ⟨hstart, ?_, ?_⟩
  · rw [← hstart]
    exact hlater.filled.comprises_tookBy hcall (hdone ▸ rfl)
  · intro hlocked number sample hlt hok hnew
    have hdelivered := hlater.delivered
    have hnodup := hlater.nodup_returned
    rw [hcalls] at hdelivered hnodup hfollows hcall hok ⊢
    exact hlocked.mem_tookBy_next h.orderly h.accounted h.delivered calls hdelivered hnodup hfollows
      hcall hok hlt hnew

/-- **A flush on its own** finds the recorder settled, and takes out all that has waited
since the lost profile ended. -/
theorem flush?_of_lost {i : Nat} {lost : Flushed Profile} (hlost : service.Lost i lost)
    (hlast : service.traffic.returned.getLast? = some i)
    (hrecording : service.traffic.recording = none) (hundisturbed : service.Undisturbed)
    (finish now : Instant) :
    service.traffic.recorder.Settled ∧ ∃ profile recorder,
      profile.Comprises enabled.valueTypes lost.nextStart
        ((service.samplesAt (.store service.traffic.recorder.active)).map Numbered.sample) ∧
      recorder.Settled ∧ (service.traffic.recorder.flush? finish now).map Logged.value =
        some (⟨lost.nextStart, finish, now, profile⟩, recorder) := by
  have hfallen := h.endures.fallen hlost.panicked
  have hout := hfallen.outside hundisturbed
  have hsettled := h.orderly.settled_of_outside hout hrecording
  obtain ⟨-, ⟨call, hcall, hdone⟩, -⟩ := hfallen.exported_of_lost hlost
  have hstart := h.succeeds.starts_active_of_last hlast (Traffic.outcome?_of_done hcall hdone) hout
  refine ⟨hsettled, _, service.traffic.recorder.flipped now, Profile.comprises_of_eq rfl,
    hsettled.flipped now, ?_⟩
  rw [hsettled.flush?_eq, h.filled.taken_eq hstart]
  rfl

end Upheld

/-- **What is promised of a scheduler whose exporter may panic.** -/
structure Withstands (panics : Nat → Bool) (valueTypes : List Metric) (service : Service Profile) :
    Prop where
  /-- The thread has panicked if and only if the exporter does not return from its last
  call. -/
  panicked_iff : service.scheduler.thread.phase = .panicked ↔
    0 < service.scheduler.thread.exported.length ∧
      panics service.scheduler.thread.exported.length = true
  /-- From every call before that it has returned. -/
  returns : ∀ n, 0 < n → n < service.scheduler.thread.exported.length → panics n = false
  /-- After that it is not called again, whatever happens. -/
  silent : service.scheduler.thread.phase = .panicked → ∀ later,
    (service.afterWith panics later).scheduler.thread = service.scheduler.thread
  /-- The stopping call then has only its own steps to make. -/
  stops : service.scheduler.thread.phase = .panicked →
    (service.afterWith panics [.stop, .raise, .join]).returned = true
  /-- Whether the exporter panics or not, that call waits for the flag during one step of
  the thread at most. -/
  raises : service.stopCall.isSome → service.mark = none → ∀ now,
    (service.stepWith? panics .raise).isSome ∨
      ∃ service', service.stepWith? panics (.thread now) = some service' ∧
        (service'.stepWith? panics .raise).isSome
  /-- From then on somebody can make a step until it has returned. -/
  goesOn : service.mark.isSome → ∀ now, service.returned = true ∨
    (service.stepWith? panics .join).isSome ∨ (service.stepWith? panics (.thread now)).isSome ∨
    (service.stepWith? panics (.call .recordStep)).isSome ∨
    ∃ i, (service.stepWith? panics (.call (.flushStep i now))).isSome
  /-- And nobody can make steps for ever. -/
  ends : service.mark.isSome → ∀ action service', action.goesOn = true →
    service.stepWith? panics action = some service' → service'.stepsLeft < service.stepsLeft
  /-- A panic costs the profile that the exporter was given last. -/
  exists_lost : service.scheduler.thread.phase = .panicked → ∃ i lost, service.Lost i lost
  /-- The profile comprises what its flush has taken, and that is something. -/
  lost : ∀ i lost, service.Lost i lost →
    lost.profile.Comprises valueTypes lost.start
        ((service.traffic.tookBy i).map Numbered.sample) ∧
      service.traffic.tookBy i ≠ [] ∧
      service.samplesAt (.exported (service.scheduler.thread.exported.length - 1)) =
        service.traffic.tookBy i
  /-- That flush is the last that has returned, as long as nobody but the thread flushes. -/
  last : ∀ i lost, service.Lost i lost →
    (∀ j ∈ service.traffic.returned, j ∈ service.own.map OwnFlush.number) →
      service.traffic.returned.getLast? = some i
  /-- A sample that was recorded is in this or in exactly one other profile: in a slot,
  flushed by somebody else or exported before. -/
  recorded : ∀ number sample, service.traffic.recorded[number]? = some ⟨sample, .ok ()⟩ →
    ∃! whereabouts, ⟨number, sample⟩ ∈ service.samplesAt whereabouts
  /-- After a panic none is on its way. -/
  onTheWay : service.scheduler.thread.phase = .panicked → service.samplesAt .onTheWay = []
  /-- One slot is held back then, the other is active, and locked only by a recording that
  is in it. -/
  locks : service.scheduler.thread.phase = .panicked → service.Undisturbed →
    service.traffic.recorder.flushing = false ∧
      (service.traffic.recorder.slot service.traffic.recorder.active.other).locked = true ∧
      ((service.traffic.recorder.slot service.traffic.recorder.active).locked = true ↔
        service.traffic.holding = some service.traffic.recorder.active)
  /-- What is accepted from now on does not go out with a profile whose flush has had its
  lock, if that is lost later. It waits in the active slot until the next flush returns. -/
  stays : ∀ later i lost, (service.afterWith panics later).Lost i lost →
    service.traffic.HasLocked i →
    ∀ entry, (service.afterWith panics later).traffic.Accepted entry →
      ¬ service.traffic.Accepted entry →
        entry ∉ (service.afterWith panics later).traffic.tookBy i ∧
          ((service.afterWith panics later).Undisturbed →
            (service.afterWith panics later).traffic.returned.getLast? = some i →
              entry ∈ (service.afterWith panics later).samplesAt
                (.store (service.afterWith panics later).traffic.recorder.active))
  /-- The flush that returns next begins where the lost profile ends, and takes it if it
  had been recorded when that was called. -/
  follows : ∀ later i lost, (service.afterWith panics later).Lost i lost →
    ∀ (j : Nat) (call : FlushCall Profile) (next : Flushed Profile),
      (service.afterWith panics later).traffic.Follows i j →
      (service.afterWith panics later).traffic.flushes[j]? = some call →
      call.phase = .done next →
        next.start = lost.nextStart ∧
          next.profile.Comprises valueTypes lost.nextStart
            (((service.afterWith panics later).traffic.tookBy j).map Numbered.sample) ∧
          (service.traffic.HasLocked i → ∀ number sample, number < call.since →
            (service.afterWith panics later).traffic.recorded[number]? = some ⟨sample, .ok ()⟩ →
              ¬ service.traffic.Accepted ⟨number, sample⟩ →
                ⟨number, sample⟩ ∈ (service.afterWith panics later).traffic.tookBy j)
  /-- A flush on its own finds the recorder settled. It returns at once, with all that has
  waited in the active slot since the lost profile ended. -/
  serializes : ∀ i lost, service.Lost i lost → service.traffic.returned.getLast? = some i →
    service.traffic.recording = none → service.Undisturbed →
      service.traffic.recorder.Settled ∧ ∀ finish now, ∃ profile recorder,
        profile.Comprises valueTypes lost.nextStart
          ((service.samplesAt (.store service.traffic.recorder.active)).map Numbered.sample) ∧
        recorder.Settled ∧ (service.traffic.recorder.flush? finish now).map Logged.value =
          some (⟨lost.nextStart, finish, now, profile⟩, recorder)

/-- What keeps the promises. -/
theorem Upheld.withstands {panics : Nat → Bool} {enabled : EnabledMetrics} {created : Instant}
    {service : Service Profile} (h : service.Upheld panics enabled created) :
    service.Withstands panics enabled.valueTypes where
  panicked_iff := h.endures.panicked_iff
  returns := h.endures.returns
  silent := fun hphase later => (h.endures.fallen hphase).thread_afterWith later
  stops := returned_of_panicked
  raises := h.endures.raises
  goesOn := h.endures.goesOn h.orderly
  ends := fun hmark _ _ hgoesOn hstep => h.endures.stepsLeft_lt hmark hgoesOn hstep
  exists_lost := fun hphase => (h.endures.fallen hphase).exists_lost
  lost := by
    intro i lost hlost
    obtain ⟨hcomprises, hsome⟩ := h.comprises_of_lost hlost
    exact ⟨hcomprises, hsome, h.samplesAt_of_lost hlost⟩
  last := fun _ _ hlost halone => h.getLast?_returned_of_lost hlost halone
  recorded := fun _ _ hok => h.existsUnique_whereabouts (.inl hok)
  onTheWay := h.onTheWay_eq_nil
  locks := fun hphase hundisturbed =>
    h.orderly.locks_of_outside ((h.endures.fallen hphase).outside hundisturbed)
  stays := fun _ _ _ hlost hlocked _ haccepted hnew => h.stays hlost hlocked haccepted hnew
  follows := fun _ _ _ hlost _ _ _ hfollows hcall hdone => h.follows hlost hfollows hcall hdone
  serializes := by
    intro i lost hlost hlast hrecording hundisturbed
    have hflushes := h.flush?_of_lost hlost hlast hrecording hundisturbed
    exact ⟨(hflushes .epoch .epoch).1, fun finish now => (hflushes finish now).2⟩

/-- **However steps interleave and wherever the exporter panics**, a scheduler that was
started with an interval that is long enough, on a recorder in any state of use, costs
nothing but the profile over which it does. -/
theorem withstands_after (enabled : EnabledMetrics) (created : Instant)
    (earlier : List Traffic.Action) (interval : Duration) (hinterval : minFlushInterval ≤ interval)
    (panics : Nat → Bool) (actions : List Action) :
    ∃ scheduler, (Scheduler.start interval).value = .ok scheduler ∧
      ((started ((Traffic.new enabled created).after earlier) scheduler).afterWith panics
        actions).Withstands panics enabled.valueTypes := by
  have hlong : ¬ interval < minFlushInterval := Nat.not_lt.2 hinterval
  have hstart : (Scheduler.start (P := Profile) interval).value = .ok ⟨interval, false, .new⟩ := by
    rw [Scheduler.start, if_neg hlong]
  have hupheld : (started ((Traffic.new enabled created).after earlier)
      ⟨interval, false, .new⟩ : Service Profile).Upheld panics enabled created :=
    ⟨endures_started _ interval, ⟨earlier, rfl⟩, ordered_started _ _⟩
  exact ⟨_, hstart, (hupheld.afterWith actions).withstands⟩

/-- A sample is recorded, the thread flushes it, and one more is recorded before the
exporter is called. -/
def recordedInExport : List Action := List.flatten [
  [.call (.record default)], List.replicate 3 (.call .recordStep),
  List.replicate 12 (.thread .epoch),
  [.call (.record default)], List.replicate 4 (.call .recordStep)]

-- the exporter panics over the first sample, and a flush of somebody else returns the second
theorem withstands_after_recordedInExport :
    minFlushInterval ≤ .ofMillis 1 ∧ ∃ scheduler : Scheduler Profile,
      (Scheduler.start (.ofMillis 1)).value = .ok scheduler ∧
      let service := (started ((Traffic.new {} .epoch).after []) scheduler).afterWith (· == 1)
        (recordedInExport ++ [.thread .epoch, .thread .epoch])
      service.Withstands (· == 1) (EnabledMetrics.valueTypes {}) ∧
        service.traffic.tookBy 0 = [⟨0, default⟩] ∧ ∃ lost recorder, service.Lost 0 lost ∧
          (service.traffic.recorder.flush? .epoch .epoch).map Logged.value =
            some (⟨lost.nextStart, .epoch, .epoch, Profile.gathered (EnabledMetrics.valueTypes {})
              lost.nextStart [default]⟩, recorder) := by
  have hlong : minFlushInterval ≤ .ofMillis 1 := by decide
  obtain ⟨scheduler, hstart, hwithstands⟩ := withstands_after {} .epoch [] (.ofMillis 1) hlong
    (· == 1) (recordedInExport ++ [.thread .epoch, .thread .epoch])
  have hscheduler : scheduler = ⟨.ofMillis 1, false, .new⟩ := (Except.ok.inj hstart).symm
  subst hscheduler
  refine ⟨hlong, _, hstart, hwithstands, ?_⟩
  rw [afterWith_append] at hwithstands ⊢
  obtain ⟨before, hbefore⟩ : ∃ before, (started ((Traffic.new {} .epoch).after [])
    ⟨.ofMillis 1, false, .new⟩ : Service Profile).afterWith (· == 1) recordedInExport = before :=
      ⟨_, rfl⟩
  have hupheld : before.Upheld (· == 1) {} .epoch :=
    hbefore ▸ Upheld.afterWith ⟨endures_started _ _, ⟨[], rfl⟩, ordered_started _ _⟩ _
  -- the thread has its first profile in hand, and two steps are left to the panic
  have hdone : (match before.scheduler.thread.phase with
    | .flushing _ _ flush => flush.result?.isSome
    | _ => false) = true ∧ before.scheduler.thread.exported.length = 0 := by
    rw [← hbefore]
    decide +kernel
  have hown : before.own = [⟨0, false⟩] ∧ before.traffic.returned = [0] ∧
      before.traffic.flushes.length = 1 ∧ before.traffic.recording.isNone = true := by
    rw [← hbefore]
    decide +kernel
  have hsamples : before.traffic.tookBy 0 = [⟨0, default⟩] ∧
      before.traffic.held before.traffic.recorder.active = [⟨1, default⟩] := by
    rw [← hbefore]
    decide +kernel
  rw [hbefore] at hwithstands ⊢
  obtain ⟨hown, hreturned, hlength, hrecording⟩ := hown
  obtain ⟨hdone, hexported⟩ := hdone
  split at hdone
  · next stopping finish flush hphase =>
    obtain ⟨flushed, hflushed⟩ := Option.isSome_iff_exists.1 hdone
    rw [Flush.eq_done_of_result? hflushed] at hphase
    obtain ⟨hlost, htraffic, hownAfter⟩ := hupheld.lost_of_handOver hphase ⟨0, false⟩
      (by rw [hown]; rfl) (by rw [hsamples.1]; decide) (by rw [hexported]; rfl) .epoch
    have hlast := hwithstands.last 0 flushed hlost (by simp [htraffic, hownAfter, hreturned, hown])
    have hundisturbed :
        (before.afterWith (· == 1) [.thread .epoch, .thread .epoch]).Undisturbed := by
      intro i call hcall hother
      rw [htraffic] at hcall
      rw [hownAfter, hown] at hother
      obtain ⟨hlt, -⟩ := List.getElem?_eq_some_iff.1 hcall
      obtain rfl : i = 0 := by omega
      exact absurd (List.mem_singleton_self 0) hother
    obtain ⟨profile, recorder, hcomprises, -, hflush⟩ := (hwithstands.serializes 0 flushed hlost
      hlast (by simpa [htraffic] using hrecording) hundisturbed).2 .epoch .epoch
    refine ⟨htraffic ▸ hsamples.1, flushed, recorder, hlost, hflush.trans ?_⟩
    rw [hcomprises.eq_gathered, samplesAt, htraffic, hsamples.2]
    rfl
  · cases hdone

end Service

end StackProfiler
