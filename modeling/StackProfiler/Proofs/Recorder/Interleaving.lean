import StackProfiler.Proofs.Recorder.Contents
import StackProfiler.Proofs.Recorder.Progress
/-!
# Recorders — every interleaving

What holds of a recorder at every moment, however the steps of one recording
after the other and of any number of flushes come between one another
(`Traffic.Sound`): no two calls are at one store, no sample is lost or there
twice, the samples of a place can be read back from its profile, a flush leaves
nothing behind that had been recorded when it was called, and nobody waits for
ever.
-/

namespace StackProfiler

namespace Traffic

/-- **What is promised of a recorder in use.** -/
structure Sound (traffic : Traffic Profile) (valueTypes : List Metric) : Prop where
  /-- No flush is at the store at which the recording is. -/
  recording_apart : ∀ sample recording slot storeCall,
    traffic.recording = some (sample, recording) →
    recording.storeCall? sample = some (slot, storeCall) →
    ∀ (i : Nat) (call : FlushCall Profile) (storeCall' : StoreCall),
      traffic.flushes[i]? = some call → call.phase.storeCall? ≠ some (slot, storeCall')
  /-- No two flushes are at stores. -/
  flushes_apart : ∀ (i j : Nat) (call other : FlushCall Profile),
    traffic.flushes[i]? = some call → traffic.flushes[j]? = some other →
    call.phase.storeCall?.isSome → other.phase.storeCall?.isSome → i = j
  /-- The recording is at a store only while the slot is locked. -/
  recording_locked : ∀ sample recording slot storeCall,
    traffic.recording = some (sample, recording) →
    recording.storeCall? sample = some (slot, storeCall) →
    (traffic.recorder.slot slot).locked = true
  /-- And so is a flush. -/
  flush_locked : ∀ (i : Nat) (call : FlushCall Profile) slot storeCall,
    traffic.flushes[i]? = some call → call.phase.storeCall? = some (slot, storeCall) →
    (traffic.recorder.slot slot).locked = true
  /-- A sample that was recorded is in exactly one place. -/
  recorded : ∀ number sample, traffic.recorded[number]? = some ⟨sample, .ok ()⟩ →
    ∃! place, ⟨number, sample⟩ ∈ traffic.samplesAt place
  /-- There it is once. -/
  nodup : ∀ place, (traffic.samplesAt place).Nodup
  /-- A sample that was refused is in no place. -/
  refused : ∀ number sample error, traffic.recorded[number]? = some ⟨sample, .error error⟩ →
    ∀ place sample', ⟨number, sample'⟩ ∉ traffic.samplesAt place
  /-- In no place is anything else, but for the sample of a recording that has
  only to give its lock back. -/
  only : ∀ place, ∀ entry ∈ traffic.samplesAt place, traffic.Accepted entry
  /-- The samples in a slot are what its profile comprises. -/
  stored : ∀ id, ∃ start, (traffic.recorder.slot id).store.Comprises valueTypes start
    ((traffic.samplesAt (.slot id)).map Numbered.sample)
  /-- Those of a flush are what the profile comprises that it has taken, and returns. -/
  flushed : ∀ (i : Nat) (call : FlushCall Profile) (flushed : Flushed Profile),
    traffic.flushes[i]? = some call → call.phase.flushed? = some flushed →
    flushed.finish = call.finish ∧ flushed.profile.Comprises valueTypes flushed.start
      ((traffic.samplesAt (.flush i)).map Numbered.sample)
  /-- Only a flush that has taken a profile has samples. -/
  flushed_of_mem : ∀ i, ∀ entry ∈ traffic.samplesAt (.flush i),
    ∃ call flushed, traffic.flushes[i]? = some call ∧ call.phase.flushed? = some flushed
  /-- What was recorded before a flush was called is in what it has returned or
  in what was returned before. -/
  delivered : ∀ (i : Nat) (call : FlushCall Profile) (flushed : Flushed Profile),
    traffic.flushes[i]? = some call → call.phase = .done flushed →
    ∀ number sample, number < call.since →
      traffic.recorded[number]? = some ⟨sample, .ok ()⟩ →
      ⟨number, sample⟩ ∈ traffic.samplesAt (.flush i) ∨
        ∃ j ∈ traffic.returnedBefore i, ⟨number, sample⟩ ∈ traffic.samplesAt (.flush j)
  /-- Before it enters a flush waits for another that is inside; then only at the
  old slot, for a recording that is in it. -/
  waits : ∀ (i : Nat) (call : FlushCall Profile) (now : Instant),
    traffic.flushes[i]? = some call → (traffic.step? (.flushStep i now) = none ↔
      (call.phase = .entering ∧ ∃ (j : Nat) (other : FlushCall Profile),
        traffic.flushes[j]? = some other ∧ other.phase.inside = true) ∨
      (∃ old now', call.phase = .locking old now' ∧ traffic.holding = some old) ∨
      call.phase.result?.isSome)
  /-- Once inside it waits for that recording to make two steps at most. -/
  goesOn : ∀ (i : Nat) (call : FlushCall Profile) (now : Instant),
    traffic.flushes[i]? = some call → call.phase.inside = true → ∃ k ≤ 2,
      ((traffic.after (List.replicate k .recordStep)).step? (.flushStep i now)).isSome
  /-- As long as not all calls have returned, one of them can make a step. -/
  progress : ∀ now, traffic.Finished ∨ (traffic.step? .recordStep).isSome ∨
    ∃ i, (traffic.step? (.flushStep i now)).isSome
  /-- No calls can make steps for ever. -/
  ends : ∀ action traffic', action.goesOn = true → traffic.step? action = some traffic' →
    traffic'.stepsLeft < traffic.stepsLeft

/-- What keeps the promises. -/
theorem sound {traffic : Traffic Profile} {valueTypes : List Metric} (horderly : traffic.Orderly)
    (haccounted : traffic.Accounted) (hdelivered : traffic.Delivered)
    (hfilled : traffic.Filled valueTypes) : traffic.Sound valueTypes where
  recording_apart := fun _ _ _ _ hrecording hstore _ _ _ hcall =>
    horderly.recording_apart hrecording hstore hcall
  flushes_apart := fun _ _ _ _ hcall hother => horderly.flushes_apart hcall hother
  recording_locked := fun _ _ _ _ hrecording hstore =>
    horderly.locked_of_recording hrecording hstore
  flush_locked := fun _ _ _ _ hcall hstore => horderly.locked_of_flush hcall hstore
  recorded := fun _ _ hok => haccounted.existsUnique_place (.inl hok)
  nodup := haccounted.samplesAt_nodup
  refused := fun _ _ _ hrefused place _ => haccounted.not_mem_of_refused hrefused place
  only := fun place entry hmem =>
    (haccounted.mem_iff entry).1 (mem_everywhere_iff.2 ⟨place, hmem⟩)
  stored := hfilled.comprises_slot
  flushed := fun i call flushed hcall hflushed =>
    ⟨(hfilled.flushed_eq i call hcall flushed hflushed).1,
      hfilled.comprises_tookBy hcall hflushed⟩
  flushed_of_mem := by
    intro i entry hmem
    obtain ⟨call, hcall, htook⟩ := mem_tookBy_iff.1 hmem
    cases hflushed : call.phase.flushed? with
    | some flushed => exact ⟨call, flushed, hcall, hflushed⟩
    | none =>
      rw [hdelivered.took_eq_nil i call hcall hflushed] at htook
      cases htook
  delivered := by
    intro i call flushed hcall hdone number sample hlt hok
    have hcovers := hdelivered.covers_took i call hcall (by rw [hdone]; rfl)
    rcases hcovers ⟨number, sample⟩ hok hlt with hmem | hbefore
    · exact .inl (mem_tookBy_iff.2 ⟨call, hcall, hmem⟩)
    · exact .inr hbefore
  waits := by
    intro i call now hcall
    rw [step?_flushStep hcall, Option.map_eq_none_iff]
    exact horderly.step?_eq_none_iff hcall now
  goesOn := fun _ _ now hcall hin => horderly.goesOn_within_two hcall hin now
  progress := horderly.exists_step
  ends := fun _ _ hgoesOn hstep => stepsLeft_lt hstep hgoesOn

/-- **However calls overlap**, a recorder that was new keeps its promises. -/
theorem sound_after (enabled : EnabledMetrics) (now : Instant) (actions : List Action) :
    ((new enabled now).after actions).Sound enabled.valueTypes :=
  sound (orderly_after enabled now actions) (accounted_after enabled now actions)
    (delivered_after enabled now actions) (filled_after enabled now actions)

-- a flush that finds a recording in the old slot waits for it and takes its sample
example :
    let step : Action := .flushStep 0 .epoch
    let traffic := (new {} .epoch : Traffic Profile).after
      [.record default, .recordStep, .flush .epoch, step, step, step, step, step, .recordStep,
        .recordStep, step, step, step, step]
    traffic.returned = [0] ∧ traffic.tookBy 0 = [⟨0, default⟩] := by
  decide

end Traffic

end StackProfiler
