import StackProfiler.Proofs.Scheduler.Shutdown
import StackProfiler.Proofs.Scheduler.Whereabouts
/-!
# Flush schedulers — what a scheduler promises

What holds of a scheduler at every moment, however the steps of its thread, of the call
that stops it and of other calls on the recorder come between one another
(`Service.Serves`): no sample is lost or goes out twice, each can be read back from the
profile that it is in, no empty profile is exported, the thread flushes once more when it
is told to stop and then ends, and when the stopping call returns all that had been
recorded when it was made has left the recorder.
-/

namespace StackProfiler

/-- Whether the thread is in or behind a flush before which it has read the flag as
raised. -/
def FlushThread.stopping {P : Type} (thread : FlushThread P) : Bool :=
  match thread.phase with
  | .flushing stopping _ _ | .exporting stopping _ | .resuming stopping => stopping
  | .exited => true
  | .starting | .testing | .waiting | .reading | .panicked => false

namespace Service

/-! ## Nothing is left behind -/

section Delivered

variable {service : Service Profile} {valueTypes : List Metric}

/-- What a flush of the recorder has returned is exported if it was the thread's, once
the thread has ended. -/
theorem exported_or_serialized (hfilled : service.traffic.Filled valueTypes)
    (hsettled : ∀ own ∈ service.own, service.Settled own.number) {i : Nat} {entry : Numbered}
    (hreturned : i ∈ service.traffic.returned) (hmem : entry ∈ service.traffic.tookBy i) :
    (∃ k, entry ∈ service.samplesAt (.exported k)) ∨
      ∃ j ∈ service.traffic.returned, entry ∈ service.samplesAt (.serialized j) := by
  by_cases hown : i ∈ service.own.map OwnFlush.number
  · obtain ⟨own, hmemOwn, rfl⟩ := List.mem_map.1 hown
    by_cases hexported : own.number ∈ service.exports
    · refine .inl ⟨service.exports.idxOf own.number, ?_⟩
      rw [samplesAt, List.getElem?_idxOf hexported]
      exact hmem
    · rw [(hsettled own hmemOwn).tookBy_eq_nil hfilled hexported] at hmem
      cases hmem
  · refine .inr ⟨i, hreturned, ?_⟩
    rw [samplesAt, if_neg hown]
    exact hmem

/-- **When the stopping call returns**, all that had been recorded when it was made has
left the recorder. -/
theorem delivered_of_returned (htied : service.Tied) (hsignalled : service.Signalled)
    (hfilled : service.traffic.Filled valueTypes) (hdelivered : service.traffic.Delivered)
    (hreturned : service.returned = true) :
    ∃ since, service.stopCall = some since ∧ ∀ number sample, number < since →
      service.traffic.recorded[number]? = some ⟨sample, .ok ()⟩ →
        (∃ k, ⟨number, sample⟩ ∈ service.samplesAt (.exported k)) ∨
          ∃ i ∈ service.traffic.returned, ⟨number, sample⟩ ∈ service.samplesAt (.serialized i) := by
  obtain ⟨i, hlast, hsettled⟩ := htied.settled_of_ended (hsignalled.ended hreturned).2
  obtain ⟨since, call, hcall, hflush, hle⟩ := hsignalled.since_of_stopping _ hlast.mem rfl
  refine ⟨since, hcall, fun number sample hlt hok => ?_⟩
  obtain ⟨call', flushed, hflush', hdone, -⟩ := hsettled _ hlast.mem
  obtain rfl := Option.some.inj (hflush.symm.trans hflush')
  -- the last flush, or one that returned before it, has taken the sample
  have hcovers := hdelivered.covers_took i call hflush (hdone ▸ rfl)
  rcases hcovers ⟨number, sample⟩ hok (Nat.lt_of_lt_of_le hlt hle) with htook | ⟨j, hj, htook⟩
  · have hdoneAll : i ∈ service.traffic.returned :=
      (hdelivered.mem_returned_iff i).2 ⟨call, hflush, hdone ▸ rfl⟩
    exact exported_or_serialized hfilled hsettled hdoneAll
      (Traffic.mem_tookBy_iff.2 ⟨call, hflush, htook⟩)
  · have hbefore : j ∈ service.traffic.returned := (List.takeWhile_prefix _).subset hj
    exact exported_or_serialized hfilled hsettled hbefore htook

end Delivered

/-! ## The last flush -/

section Stopped

variable {P : Type} [ProfileStore P] {service : Service P} (htied : service.Tied)
include htied

/-- **A flush before which the flag was read as raised** is the thread's last. -/
theorem getLast?_of_stopping {own : OwnFlush} (hmem : own ∈ service.own)
    (hstopping : own.stopping = true) :
    service.own.getLast? = some own ∧ service.scheduler.thread.stopping = true := by
  have hnotPast : ¬ service.Past own := by
    intro hpast
    rw [hpast.goesOn] at hstopping
    cases hstopping
  have hlast : service.own.getLast? = some own :=
    (mem_dropLast_or_getLast? hmem).resolve_left fun hbefore =>
      hnotPast (htied.past_of_mem_dropLast own hbefore)
  have hsame : ∀ {i stopping}, service.Last i stopping → stopping = true :=
    fun hi => (congrArg OwnFlush.stopping (hi.eq_of_getLast? hlast)).trans hstopping
  refine ⟨hlast, ?_⟩
  have hstands := htied.stands
  rw [FlushThread.stopping]
  cases hphase : service.scheduler.thread.phase with
  | starting | testing | waiting | reading =>
    rw [hphase] at hstands
    exact absurd (hstands own hmem) hnotPast
  | flushing stopping finish flush =>
    rw [hphase] at hstands
    obtain ⟨i, call, hi, -⟩ := hstands
    exact hsame hi
  | exporting stopping flushed =>
    rw [hphase] at hstands
    obtain ⟨i, call, hi, -⟩ := hstands
    exact hsame hi
  | resuming stopping =>
    rw [hphase] at hstands
    obtain ⟨i, hi, -⟩ := hstands
    exact hsame hi
  | exited => rfl
  | panicked =>
    rw [hphase] at hstands
    exact hstands.elim

variable (hsignalled : service.Signalled)
include hsignalled

/-- **After the flag was raised** at most two flushes begin. -/
theorem begun_le_of_mark {mark : Mark} (hmark : service.mark = some mark) :
    service.begun ≤ mark.begun + 2 := by
  have hlength := hsignalled.length_own mark hmark
  have hasked := (hsignalled.begun_le mark hmark).2
  have honce := htied.countP_stopping_le
  have hbegun : service.begun ≤ service.own.length := List.countP_le_length
  omega

/-- **A thread that has ended** has begun a flush after the flag was raised, and all its
flushes have begun. -/
theorem lt_begun_of_ended (hended : service.scheduler.thread.ended = true) :
    ∃ mark, service.mark = some mark ∧ mark.begun < service.begun ∧
      service.begun = service.own.length := by
  obtain ⟨i, hlast, hsettled⟩ := htied.settled_of_ended hended
  have hraised : service.mark ≠ none := by
    intro hnone
    have hunread := hsignalled.unread hnone _ hlast.mem
    cases hunread
  obtain ⟨mark, hmark⟩ := Option.ne_none_iff_exists'.1 hraised
  have hall : service.begun = service.own.length :=
    List.countP_eq_length.2 fun own hmem => (hsettled own hmem).hasBegun
  have hlength := hsignalled.length_own mark hmark
  have hasked := (hsignalled.begun_le mark hmark).1
  rw [htied.countP_stopping hlast] at hlength
  have hone : true.toNat = 1 := rfl
  exact ⟨mark, hmark, by omega, hall⟩

end Stopped

/-! ## At every moment -/

section Kept

variable {P : Type} [ProfileStore P]

/-- **What every step keeps**: the recorder is one in use, and thread and flag are as
they should be. -/
structure Kept (start : Traffic P) (service : Service P) : Prop where
  reached : ∃ calls, service.traffic = start.after calls
  tied : service.Tied
  signalled : service.Signalled

/-- Every step keeps it. -/
theorem Kept.step {start : Traffic P} {service service' : Service P} {action : Action}
    (h : service.Kept start) (hstep : service.step? action = some service') :
    service'.Kept start :=
  ⟨Traffic.exists_after_of_step h.reached (h.tied.traffic_of_step? hstep), h.tied.step hstep,
    h.signalled.step h.tied hstep⟩

end Kept

/-- **What is promised of a scheduler in use.** -/
structure Serves (service : Service Profile) (valueTypes : List Metric) : Prop where
  /-- A sample that was recorded is in exactly one profile: in a slot, flushed by
  somebody else, exported, or on its way to the exporter. -/
  recorded : ∀ number sample, service.traffic.recorded[number]? = some ⟨sample, .ok ()⟩ →
    ∃! whereabouts, ⟨number, sample⟩ ∈ service.samplesAt whereabouts
  /-- There it is once. -/
  nodup : ∀ whereabouts, (service.samplesAt whereabouts).Nodup
  /-- Nothing else is anywhere, but for the sample of a recording that has only to give
  its lock back. -/
  only : ∀ whereabouts, ∀ entry ∈ service.samplesAt whereabouts, service.traffic.Accepted entry
  /-- The samples in a slot are what its profile comprises. -/
  stored : ∀ id, ∃ start, (service.traffic.recorder.slot id).store.Comprises valueTypes start
    ((service.samplesAt (.store id)).map Numbered.sample)
  /-- So it is with the profile of a flush that somebody else has asked for. -/
  serialized : ∀ i, ∀ entry ∈ service.samplesAt (.serialized i),
    i ∉ service.own.map OwnFlush.number ∧ ∃ call flushed,
      service.traffic.flushes[i]? = some call ∧ call.phase.flushed? = some flushed ∧
      flushed.profile.Comprises valueTypes flushed.start
        ((service.samplesAt (.serialized i)).map Numbered.sample)
  /-- And with a profile that the exporter was given, which is never empty. -/
  exported : ∀ (k : Nat) (flushed : Flushed Profile),
    service.scheduler.thread.exported[k]? = some flushed →
    ProfileStore.isEmpty flushed.profile = false ∧ service.samplesAt (.exported k) ≠ [] ∧
    flushed.profile.Comprises valueTypes flushed.start
      ((service.samplesAt (.exported k)).map Numbered.sample)
  exported_of_mem : ∀ k, ∀ entry ∈ service.samplesAt (.exported k),
    ∃ flushed, service.scheduler.thread.exported[k]? = some flushed
  /-- A sample is on its way only while the thread has its profile in hand. -/
  onTheWay : ∀ entry ∈ service.samplesAt .onTheWay,
    ∃ flushed, service.scheduler.thread.carried? = some flushed ∧
      flushed.profile.Comprises valueTypes flushed.start
        ((service.samplesAt .onTheWay).map Numbered.sample)
  /-- The first flush before which the thread reads the flag as raised is its last: it
  only has to export the profile and to end. -/
  leaves : ∀ own ∈ service.own, own.stopping = true →
    service.own.getLast? = some own ∧ service.scheduler.thread.stopping = true
  /-- It does not end otherwise. -/
  ends_behind : service.scheduler.thread.ended = true →
    ∃ own, service.own.getLast? = some own ∧ own.stopping = true
  /-- After the flag was raised no wait begins and at most two flushes do. -/
  heeds : ∀ mark, service.mark = some mark →
    service.waits = mark.waits ∧ service.begun ≤ mark.begun + 2
  /-- When the thread has ended one at least has begun since then, and all that have
  begun are complete. -/
  completes : service.scheduler.thread.ended = true → ∃ mark, service.mark = some mark ∧
    mark.begun < service.begun ∧ service.begun = service.own.length ∧
    ∀ own ∈ service.own, service.Settled own.number
  /-- When the stopping call returns the thread has ended, and whatever had been recorded
  when the call was made has been exported, or somebody else's flush has returned it. -/
  delivers : service.returned = true → service.scheduler.thread.ended = true ∧
    ∃ since, service.stopCall = some since ∧ ∀ number sample, number < since →
      service.traffic.recorded[number]? = some ⟨sample, .ok ()⟩ →
        (∃ k, ⟨number, sample⟩ ∈ service.samplesAt (.exported k)) ∨
          ∃ i ∈ service.traffic.returned, ⟨number, sample⟩ ∈ service.samplesAt (.serialized i)
  /-- The stopping call waits for the flag during one step of the thread at most. -/
  raises : service.stopCall.isSome → service.mark = none → ∀ now,
    (service.step? .raise).isSome ∨
      ∃ service', service.step? (.thread now) = some service' ∧
        (service'.step? .raise).isSome
  /-- From then on somebody can make a step until it has returned. -/
  goesOn : service.mark.isSome → ∀ now, service.returned = true ∨
    (service.step? .join).isSome ∨ (service.step? (.thread now)).isSome ∨
    (service.step? (.call .recordStep)).isSome ∨
    ∃ i, (service.step? (.call (.flushStep i now))).isSome
  /-- And nobody can make steps for ever. -/
  ends : service.mark.isSome → ∀ action service', action.goesOn = true →
    service.step? action = some service' → service'.stepsLeft < service.stepsLeft

/-- What keeps the promises. -/
theorem serves {service : Service Profile} {valueTypes : List Metric} (htied : service.Tied)
    (hsignalled : service.Signalled) (horderly : service.traffic.Orderly)
    (haccounted : service.traffic.Accounted) (hdelivered : service.traffic.Delivered)
    (hfilled : service.traffic.Filled valueTypes) : service.Serves valueTypes where
  recorded := fun _ _ hok =>
    htied.existsUnique_whereabouts (htied.exhausted hfilled) haccounted (.inl hok)
  nodup := nodup_samplesAt haccounted
  only := by
    intro whereabouts entry hmem
    obtain ⟨place, hplace, -⟩ := (htied.mem_samplesAt_iff (htied.exhausted hfilled)).1 hmem
    exact (haccounted.mem_iff entry).1 (Traffic.mem_everywhere_iff.2 ⟨place, hplace⟩)
  stored := hfilled.comprises_slot
  serialized := fun _ _ hmem => serialized_comprises hfilled hdelivered hmem
  exported := by
    intro k flushed hk
    obtain ⟨hcomprises, hsome⟩ := htied.exported_comprises hfilled hk
    refine ⟨Bool.eq_false_iff.2 fun hempty => hsome ?_, hsome, hcomprises⟩
    exact List.map_eq_nil_iff.1 (hcomprises.isEmpty_iff.1 hempty)
  exported_of_mem := fun _ _ hmem => htied.exists_exported hmem
  onTheWay := fun _ hmem => htied.carried_comprises hfilled hdelivered hmem
  leaves := fun _ hmem hstopping => getLast?_of_stopping htied hmem hstopping
  ends_behind := by
    intro hended
    obtain ⟨i, hlast, -⟩ := htied.settled_of_ended hended
    exact ⟨_, hlast.getLast?_eq, rfl⟩
  heeds := fun mark hmark =>
    ⟨hsignalled.waits_eq mark hmark, begun_le_of_mark htied hsignalled hmark⟩
  completes := by
    intro hended
    obtain ⟨mark, hmark, hlt, hall⟩ := lt_begun_of_ended htied hsignalled hended
    obtain ⟨-, -, hsettled⟩ := htied.settled_of_ended hended
    exact ⟨mark, hmark, hlt, hall, hsettled⟩
  delivers := fun hreturned => ⟨(hsignalled.ended hreturned).2,
    delivered_of_returned htied hsignalled hfilled hdelivered hreturned⟩
  raises := fun hcalled hnone now => raise_or_thread_raise hsignalled hcalled hnone now
  goesOn := fun hmark now => exists_step htied horderly hmark now
  ends := fun hmark _ _ hgoesOn hstep =>
    stepsLeft_lt htied (hsignalled.requested.trans hmark) hgoesOn hstep

/-- **However steps interleave**, a scheduler that was started with an interval that is
long enough, on a recorder in any state of use, keeps its promises. -/
theorem serves_after (enabled : EnabledMetrics) (created : Instant)
    (earlier : List Traffic.Action) (interval : Duration) (hinterval : minFlushInterval ≤ interval)
    (actions : List Action) :
    ∃ scheduler, (Scheduler.start interval).value = .ok scheduler ∧
      ((started ((Traffic.new enabled created).after earlier) scheduler).after actions).Serves
        enabled.valueTypes := by
  have hlong : ¬ interval < minFlushInterval := Nat.not_lt.2 hinterval
  have hstart : (Scheduler.start (P := Profile) interval).value = .ok ⟨interval, false, .new⟩ := by
    rw [Scheduler.start, if_neg hlong]
  refine ⟨⟨interval, false, .new⟩, hstart, ?_⟩
  have hkept : ((started ((Traffic.new enabled created).after earlier)
      ⟨interval, false, .new⟩).after actions : Service Profile).Kept
        (Traffic.new enabled created) :=
    after_induction
      ⟨⟨earlier, rfl⟩, tied_started _ interval, signalled_started _ interval⟩
      (fun _ _ _ hkept hstep => hkept.step hstep) actions
  obtain ⟨⟨calls, hreached⟩, htied, hsignalled⟩ := hkept
  refine serves htied hsignalled ?_ ?_ ?_ ?_ <;> rw [hreached]
  · exact Traffic.orderly_after enabled created calls
  · exact Traffic.accounted_after enabled created calls
  · exact Traffic.delivered_after enabled created calls
  · exact Traffic.filled_after enabled created calls

/-- A sample is recorded and flushed by somebody else, and the scheduler is told to stop
while its thread is in its first flush. -/
def stoppedInFlush : List Action := List.flatten [
  [.call (.record default)], List.replicate 3 (.call .recordStep),
  [.call (.flush .epoch)], List.replicate 8 (.call (.flushStep 0 .epoch)),
  List.replicate 6 (.thread .epoch), [.stop, .raise], List.replicate 20 (.thread .epoch), [.join]]

-- the thread flushes once more, and the call returns with nothing left behind
theorem serves_after_stoppedInFlush :
    minFlushInterval ≤ .ofMillis 1 ∧ ∃ scheduler : Scheduler Profile,
      (Scheduler.start (.ofMillis 1)).value = .ok scheduler ∧
      let service := (started ((Traffic.new {} .epoch).after []) scheduler).after stoppedInFlush
      service.Serves (EnabledMetrics.valueTypes {}) ∧ service.returned = true ∧
        service.mark = some ⟨1, 1, 1⟩ ∧ service.own = [⟨1, false⟩, ⟨2, true⟩] ∧
        service.samplesAt (.serialized 0) = [⟨0, default⟩] := by
  have hlong : minFlushInterval ≤ .ofMillis 1 := by decide
  obtain ⟨scheduler, hstart, hserves⟩ :=
    serves_after {} .epoch [] (.ofMillis 1) hlong stoppedInFlush
  have hscheduler : scheduler = ⟨.ofMillis 1, false, .new⟩ := (Except.ok.inj hstart).symm
  subst hscheduler
  refine ⟨hlong, _, hstart, hserves, ?_, ?_, ?_, ?_⟩ <;> decide +kernel

end Service

end StackProfiler
