import StackProfiler.Proofs.Scheduler.Service
/-!
# Flush schedulers — the flushes of the thread

The thread has one flush under way at most, the last it has asked for, and that is
where the thread says it is (`Service.Tied`). All earlier ones have returned with the
flag read as not raised, and their profiles have gone to the exporter unless they
were empty. Then the thread can only make the steps that `Service.ThreadMakes` lists;
whatever is said of its steps is proved from this list.
-/

namespace StackProfiler

/-- A flush that has a result is at its end. -/
theorem Flush.eq_done_of_result? {P : Type} {flush : Flush P} {flushed : Flushed P}
    (h : flush.result? = some flushed) : flush = .done flushed := by
  cases flush with
  | done flushed' =>
    obtain rfl := Option.some.inj h
    rfl
  | _ => cases h

namespace Service

variable {P : Type} [ProfileStore P]

/-! ## Where the thread stands -/

/-- **A flush that is settled**: it has returned, and the exporter was given its profile
unless that was empty. -/
def Settled (service : Service P) (i : Nat) : Prop :=
  ∃ call flushed, service.traffic.flushes[i]? = some call ∧ call.phase = .done flushed ∧
    (ProfileStore.isEmpty flushed.profile = true ∨ i ∈ service.exports)

/-- One that is behind the thread: it did not have to stop after it. -/
structure Past (service : Service P) (own : OwnFlush) : Prop where
  goesOn : own.stopping = false
  settled : service.Settled own.number

/-- **The last flush of the thread**, with all others behind it. -/
structure Last (service : Service P) (i : Nat) (stopping : Bool) : Prop where
  getLast?_eq : service.own.getLast? = some ⟨i, stopping⟩
  past : ∀ own ∈ service.own.dropLast, service.Past own

/-- **Where the thread stands** among its flushes. -/
def Stands (service : Service P) : FlushPhase P → Prop
  | .starting | .testing | .waiting | .reading => ∀ own ∈ service.own, service.Past own
  | .flushing stopping finish flush => ∃ i call, service.Last i stopping ∧
      service.traffic.flushes[i]? = some call ∧ call.finish = finish ∧ call.phase = flush ∧
      i ∉ service.exports
  | .exporting stopping flushed => ∃ i call, service.Last i stopping ∧
      service.traffic.flushes[i]? = some call ∧ call.phase = .done flushed ∧
      ProfileStore.isEmpty flushed.profile = false ∧ i ∉ service.exports
  | .resuming stopping => ∃ i, service.Last i stopping ∧ service.Settled i
  | .exited => ∃ i, service.Last i true ∧ service.Settled i
  | .panicked => False

/-- **What has been exported**: the profile of a flush of the thread that has returned,
and it was not empty. -/
structure Exported (service : Service P) (i : Nat) (flushed : Flushed P) : Prop where
  own : i ∈ service.own.map OwnFlush.number
  done : ∃ call, service.traffic.flushes[i]? = some call ∧ call.phase = .done flushed
  full : ProfileStore.isEmpty flushed.profile = false

/-- **The thread and the recorder agree** on the thread's flushes. -/
structure Tied (service : Service P) : Prop where
  lt_length : ∀ own ∈ service.own, own.number < service.traffic.flushes.length
  nodup : (service.own.map OwnFlush.number).Nodup
  stands : service.Stands service.scheduler.thread.phase
  exports_length : service.exports.length = service.scheduler.thread.exported.length
  exported : ∀ (k i : Nat) (flushed : Flushed P), service.exports[k]? = some i →
    service.scheduler.thread.exported[k]? = some flushed → service.Exported i flushed
  exports_nodup : service.exports.Nodup

/-! ## The steps of the thread -/

/-- **The steps of the thread**, with what each makes of the service. -/
inductive ThreadMakes (service : Service P) (now : Instant) : FlushPhase P → Service P → Prop
  | start : ThreadMakes service now .starting (service.setPhase .testing)
  | skipWait (hflag : service.scheduler.stopRequested = true) :
      ThreadMakes service now .testing (service.setPhase .reading)
  | wait (hflag : service.scheduler.stopRequested = false) :
      ThreadMakes service now .testing
        { service.setPhase .waiting with waits := service.waits + 1 }
  | wake : ThreadMakes service now .waiting (service.setPhase .reading)
  | ask : ThreadMakes service now .reading
      { service.setPhase (.flushing service.scheduler.stopRequested now .entering) with
        traffic := { service.traffic with
          flushes := service.traffic.flushes ++
            [.called now service.traffic.recorded.length] }
        own := service.own ++
          [⟨service.traffic.flushes.length, service.scheduler.stopRequested⟩] }
  | flush (stopping : Bool) (i : Nat) (call : FlushCall P) (phase : Flush P)
      (recorder : Recorder P) (hlast : service.Last i stopping)
      (hcall : service.traffic.flushes[i]? = some call)
      (hstep : call.phase.step? call.finish now service.traffic.recorder = some (phase, recorder))
      (hnew : i ∉ service.exports) :
      ThreadMakes service now (.flushing stopping call.finish call.phase)
        { service.setPhase (.flushing stopping call.finish phase) with
          traffic := service.traffic.flushStep i call phase recorder }
  | skip (stopping : Bool) (finish : Instant) (flushed : Flushed P)
      (hempty : ProfileStore.isEmpty flushed.profile = true) :
      ThreadMakes service now (.flushing stopping finish (.done flushed))
        (service.setPhase (.resuming stopping))
  | handOver (stopping : Bool) (finish : Instant) (flushed : Flushed P)
      (hfull : ProfileStore.isEmpty flushed.profile = false) :
      ThreadMakes service now (.flushing stopping finish (.done flushed))
        (service.setPhase (.exporting stopping flushed))
  | deliver (stopping : Bool) (i : Nat) (flushed : Flushed P) (hlast : service.Last i stopping) :
      ThreadMakes service now (.exporting stopping flushed)
        { service with
          scheduler :=
            { service.scheduler with
              thread := ⟨.resuming stopping, service.scheduler.thread.exported ++ [flushed]⟩ }
          exports := service.exports ++ [i] }
  | resume : ThreadMakes service now (.resuming false) (service.setPhase .testing)
  | exit : ThreadMakes service now (.resuming true) (service.setPhase .exited)

/-- A thread that has ended makes none of them. -/
theorem ThreadMakes.ended_eq_false {service service' : Service P} {now : Instant}
    (h : service.ThreadMakes now service.scheduler.thread.phase service') :
    service.scheduler.thread.ended = false := by
  rw [FlushThread.ended]
  generalize service.scheduler.thread.phase = phase at h
  cases h <;> rfl

/-- There are no other steps. -/
theorem Tied.threadMakes {service : Service P} (h : service.Tied) {now : Instant}
    {next : Logged (FlushThread P × Recorder P)}
    (hstep : service.scheduler.thread.step? service.scheduler.stopRequested (fun _ => false) now
      service.traffic.recorder = some next) :
    service.ThreadMakes now service.scheduler.thread.phase (service.threadStep now next.value) := by
  obtain ⟨traffic, ⟨interval, stopRequested, ⟨phase, exported⟩⟩, own, exports, waits, stopCall,
    mark, returned⟩ := service
  have hstands := h.stands
  cases phase with
  | starting =>
    obtain rfl := Option.some.inj hstep
    exact .start
  | testing =>
    obtain rfl := Option.some.inj hstep
    cases stopRequested with
    | false => exact .wait rfl
    | true => exact .skipWait rfl
  | waiting =>
    obtain rfl := Option.some.inj hstep
    exact .wake
  | reading =>
    obtain rfl := Option.some.inj hstep
    exact .ask
  | flushing stopping finish flush =>
    obtain ⟨i, call, hlast, hcall, rfl, rfl, hnew⟩ := hstands
    simp only [FlushThread.step?] at hstep
    cases hresult : call.phase.result? with
    | some flushed =>
      have hdone := Flush.eq_done_of_result? hresult
      rw [hresult] at hstep
      dsimp only at hstep
      simp only [hdone]
      split at hstep
      · next hempty =>
        obtain rfl := Option.some.inj hstep
        exact .skip stopping call.finish flushed hempty
      · next hfull =>
        obtain rfl := Option.some.inj hstep
        exact .handOver stopping call.finish flushed (Bool.eq_false_iff.2 hfull)
    | none =>
      rw [hresult] at hstep
      obtain ⟨⟨phase, recorder⟩, hphase, rfl⟩ := Option.map_eq_some_iff.1 hstep
      -- the recorder makes the same step in the traffic
      have hmirror : traffic.step? (.flushStep i now) =
          some (traffic.flushStep i call phase recorder) := by
        simp [Traffic.step?, hcall, hphase]
      have hlast' : own.getLast? = some ⟨i, stopping⟩ := hlast.getLast?_eq
      simp only [threadStep, threadAction?, ownAfter, exportsAfter, hresult, hlast',
        Option.map_some, Option.bind_some, hmirror, Option.getD_some]
      exact .flush stopping i call phase recorder hlast hcall hphase hnew
  | exporting stopping flushed =>
    obtain ⟨i, call, hlast, -⟩ := hstands
    obtain rfl := Option.some.inj hstep
    have hlast' : own.getLast? = some ⟨i, stopping⟩ := hlast.getLast?_eq
    simp only [threadStep, threadAction?, ownAfter, exportsAfter, hlast', Option.map_some,
      Option.toList_some, Option.bind_none, Option.getD_none]
    exact .deliver stopping i flushed hlast
  | resuming stopping =>
    obtain rfl := Option.some.inj hstep
    cases stopping with
    | false => exact .resume
    | true => exact .exit
  | exited => cases hstep
  | panicked => cases hstep

/-- The recorder makes the steps that the thread does. -/
theorem ThreadMakes.traffic {service service' : Service P} {now : Instant} {phase : FlushPhase P}
    (h : service.ThreadMakes now phase service') :
    service'.traffic = service.traffic ∨
      ∃ call, service.traffic.step? call = some service'.traffic := by
  cases h with
  | ask => exact .inr ⟨.flush now, rfl⟩
  | flush stopping i call phase recorder hlast hcall hstep hnew =>
    refine .inr ⟨.flushStep i now, ?_⟩
    simp [Traffic.step?, hcall, hstep]
  | _ => exact .inl rfl

end Service

end StackProfiler
