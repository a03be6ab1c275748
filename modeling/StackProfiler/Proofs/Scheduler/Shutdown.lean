import StackProfiler.Proofs.Recorder.Progress
import StackProfiler.Proofs.Scheduler.Stopping
/-!
# Flush schedulers — the stopping call returns

The stopping call waits for the lock of the flag during one step of the thread at most
(`raise_or_thread_raise`). Once the flag is raised somebody can always make a step until
the call has returned (`exists_step`), and every step brings all of them nearer to that
(`stepsLeft_lt`).
-/

namespace StackProfiler

/-- **A thread that has not ended** makes a step, unless its flush has to wait. -/
theorem FlushThread.isSome_step? {P : Type} [ProfileStore P] {stop : Bool} {panics : Nat → Bool}
    {now : Instant} {thread : FlushThread P} {recorder : Recorder P}
    (hended : thread.ended = false)
    (hflush : ∀ stopping finish flush, thread.phase = .flushing stopping finish flush →
      flush.result?.isSome ∨ (flush.step? finish now recorder).isSome) :
    (thread.step? stop panics now recorder).isSome := by
  obtain ⟨phase, exported⟩ := thread
  cases phase with
  | flushing stopping finish flush =>
    simp only [step?]
    cases hresult : flush.result? with
    | some flushed =>
      dsimp only
      split <;> rfl
    | none =>
      rcases hflush stopping finish flush rfl with hdone | hstep
      · rw [hresult] at hdone
        cases hdone
      · rw [Option.isSome_map]
        exact hstep
  | exited => cases hended
  | panicked => cases hended
  | _ => rfl

/-- A bound on the steps of a thread to its end once the flag is raised. The step that
asks for a flush stands for those of the flush too. -/
def FlushPhase.stepsToExit {P : Type} : FlushPhase P → Nat
  | .flushing false _ flush => flush.stepsLeft + 24
  | .exporting false _ => 23
  | .resuming false => 22
  | .starting => 22
  | .testing => 21
  | .waiting => 21
  | .reading => 20
  | .flushing true _ flush => flush.stepsLeft + 3
  | .exporting true _ => 2
  | .resuming true => 1
  | .exited | .panicked => 0

namespace Service

variable {P : Type}

/-- Whether an action goes on with what has been begun. -/
def Action.goesOn : Action → Bool
  | .call action => action.goesOn
  | .thread _ | .join => true
  | .stop | .raise => false

/-- A bound on the steps that are left once the flag is raised. -/
def stepsLeft (service : Service P) : Nat :=
  service.traffic.stepsLeft + service.scheduler.thread.phase.stepsToExit +
    (!service.returned).toNat

/-- The thread moves on. -/
theorem stepsLeft_setPhase {service : Service P} {phase : FlushPhase P}
    (h : phase.stepsToExit < service.scheduler.thread.phase.stepsToExit) :
    (service.setPhase phase).stepsLeft < service.stepsLeft := by
  show service.traffic.stepsLeft + phase.stepsToExit + (!service.returned).toNat < _
  rw [stepsLeft]
  omega

variable [ProfileStore P]

/-! ## Every step counts -/

/-- **A step of the thread** brings it nearer to its end. -/
theorem stepsLeft_thread {service service' : Service P}
    (hflag : service.scheduler.stopRequested = true) {now : Instant}
    (hmakes : service.ThreadMakes now service.scheduler.thread.phase service') :
    service'.stepsLeft < service.stepsLeft := by
  have hmoves : ∀ {before after : FlushPhase P}, service.scheduler.thread.phase = before →
      after.stepsToExit < before.stepsToExit →
        (service.setPhase after).stepsLeft < service.stepsLeft := by
    rintro before after rfl hlt
    exact stepsLeft_setPhase hlt
  generalize hphase : service.scheduler.thread.phase = phase at hmakes
  cases hmakes with
  | start => exact hmoves hphase (Nat.lt_succ_self 21)
  | skipWait hflag => exact hmoves hphase (Nat.lt_succ_self 20)
  | wait hflag' =>
    rw [hflag] at hflag'
    cases hflag'
  | wake => exact hmoves hphase (Nat.lt_succ_self 20)
  | ask =>
    -- the flush that is asked for has all its steps to make
    have hcalled : ∀ traffic : Traffic P, Traffic.stepsLeft { traffic with flushes :=
        traffic.flushes ++ [.called now traffic.recorded.length] } = traffic.stepsLeft + 8 := by
      intro traffic
      simp [Traffic.stepsLeft, FlushCall.called, Flush.stepsLeft, Nat.add_assoc]
    show Traffic.stepsLeft _ + FlushPhase.stepsToExit (.flushing _ now .entering) +
      (!service.returned).toNat < _
    rw [hcalled, stepsLeft, hphase, hflag]
    simp only [FlushPhase.stepsToExit, Flush.stepsLeft]
    omega
  | flush stopping i call phase recorder hlast hcall hstep hnew =>
    have htraffic := Traffic.stepsLeft_flushStep hcall hstep
    have hflush := Flush.step?_stepsLeft_lt hstep
    show Traffic.stepsLeft _ + FlushPhase.stepsToExit (.flushing stopping _ phase) +
      (!service.returned).toNat < _
    rw [stepsLeft, hphase]
    cases stopping <;> simp only [FlushPhase.stepsToExit] <;> omega
  | skip stopping finish flushed hempty =>
    exact hmoves hphase (by cases stopping <;> simp [FlushPhase.stepsToExit])
  | handOver stopping finish flushed hfull =>
    exact hmoves hphase (by cases stopping <;> simp [FlushPhase.stepsToExit])
  | deliver stopping i flushed hlast =>
    show service.traffic.stepsLeft + FlushPhase.stepsToExit (.resuming stopping) +
      (!service.returned).toNat < _
    rw [stepsLeft, hphase]
    cases stopping <;> simp only [FlushPhase.stepsToExit] <;> omega
  | resume => exact hmoves hphase (Nat.lt_succ_self 21)
  | exit => exact hmoves hphase (Nat.lt_succ_self 0)

/-- A step of a call on the recorder brings that nearer to its end. -/
theorem stepsLeft_call {service : Service P} {call : Traffic.Action} {traffic : Traffic P}
    (hgoesOn : call.goesOn = true) (hstep : service.traffic.step? call = some traffic) :
    { service with traffic := traffic }.stepsLeft < service.stepsLeft :=
  Nat.add_lt_add_right (Nat.add_lt_add_right (Traffic.stepsLeft_lt hstep hgoesOn) _) _

omit [ProfileStore P] in
/-- The stopping call returns once. -/
theorem stepsLeft_join {service : Service P} (hopen : service.returned = false) :
    { service with returned := true }.stepsLeft < service.stepsLeft := by
  show _ + _ + 0 < _
  rw [stepsLeft, hopen]
  exact Nat.lt_succ_self _

/-- **Every step counts** once the flag is raised. -/
theorem stepsLeft_lt {service service' : Service P} (h : service.Tied)
    (hflag : service.scheduler.stopRequested = true) {action : Action}
    (hgoesOn : action.goesOn = true) (hstep : service.step? action = some service') :
    service'.stepsLeft < service.stepsLeft := by
  rcases step?_cases hstep with ⟨call, traffic, rfl, -, htraffic, rfl⟩ |
    ⟨now, next, -, hnext, rfl⟩ | ⟨rfl, -, -⟩ | ⟨rfl, -, -, -, -⟩ | ⟨-, -, -, hopen, rfl⟩
  · exact stepsLeft_call hgoesOn htraffic
  · exact stepsLeft_thread hflag (h.threadMakes hnext)
  · cases hgoesOn
  · cases hgoesOn
  · exact stepsLeft_join hopen

/-! ## Somebody can make a step -/

/-- Of the thread's flushes only the last can make a step. -/
theorem Last.eq_of_step {service : Service P} {i j : Nat} {stopping : Bool}
    (hlast : service.Last j stopping) {now : Instant}
    (hown : ¬ service.allows (.flushStep i now) = true)
    (hstep : (service.traffic.step? (.flushStep i now)).isSome) : i = j := by
  have hmem : ∃ own ∈ service.own, own.number = i := by
    simpa [allows] using hown
  obtain ⟨own, hmem, rfl⟩ := hmem
  rw [← hlast.own_eq] at hmem
  rcases List.mem_append.1 hmem with hmem | hmem
  · obtain ⟨call, flushed, hcall, hdone, -⟩ := (hlast.past own hmem).settled
    rw [Traffic.step?_flushStep hcall, hdone] at hstep
    cases hstep
  · rw [List.mem_singleton.1 hmem]

/-- **Once the flag is raised** somebody can make a step until the stopping call has
returned. -/
theorem exists_step {service : Service P} (h : service.Tied) (horderly : service.traffic.Orderly)
    (hmark : service.mark.isSome) (now : Instant) :
    service.returned = true ∨ (service.step? .join).isSome ∨
      (service.step? (.thread now)).isSome ∨ (service.step? (.call .recordStep)).isSome ∨
      ∃ i, (service.step? (.call (.flushStep i now))).isSome := by
  cases hended : service.scheduler.thread.ended with
  | true =>
    cases hreturned : service.returned with
    | true => exact .inl rfl
    | false =>
      refine .inr (.inl ?_)
      simp [step?, hmark, hended, hreturned]
  | false =>
    refine .inr (.inr ?_)
    have hthread : (∀ stopping finish flush,
        service.scheduler.thread.phase = .flushing stopping finish flush →
          flush.result?.isSome ∨ (flush.step? finish now service.traffic.recorder).isSome) →
        (service.step? (.thread now)).isSome := by
      intro hflush
      rw [step?, Option.isSome_map]
      exact FlushThread.isSome_step? hended hflush
    have hstands := h.stands
    rcases horderly.exists_step now with hfinished | hrecording | ⟨i, hflush⟩
    · refine .inl (hthread fun stopping finish flush hphase => .inl ?_)
      rw [hphase] at hstands
      obtain ⟨i, call, -, hcall, -, rfl, -⟩ := hstands
      exact hfinished.flushes call (List.mem_of_getElem? hcall)
    · refine .inr (.inl ?_)
      have hallows : service.allows .recordStep = true := rfl
      rw [step?, if_pos hallows, Option.isSome_map]
      exact hrecording
    · by_cases hallows : service.allows (.flushStep i now) = true
      · refine .inr (.inr ⟨i, ?_⟩)
        rw [step?, if_pos hallows, Option.isSome_map]
        exact hflush
      · -- it is the thread's own flush, and not one that is behind it
        refine .inl (hthread fun stopping finish flush hphase => .inr ?_)
        rw [hphase] at hstands
        obtain ⟨j, call, hlast, hcall, rfl, rfl, -⟩ := hstands
        have hown : i = j := hlast.eq_of_step hallows hflush
        subst hown
        rw [Traffic.step?_flushStep hcall, Option.isSome_map] at hflush
        exact hflush

/-- **The stopping call waits for the lock of the flag** during one step of the thread
at most. -/
theorem raise_or_thread_raise {service : Service P} (hsignalled : service.Signalled)
    (hcalled : service.stopCall.isSome) (hnone : service.mark = none) (now : Instant) :
    (service.step? .raise).isSome ∨
      ∃ service', service.step? (.thread now) = some service' ∧
        (service'.step? .raise).isSome := by
  have hflag : service.scheduler.stopRequested = false := by
    rw [hsignalled.requested, hnone]
    rfl
  have hraise : ∀ {service' : Service P}, service'.stopCall = service.stopCall →
      service'.mark = service.mark → service'.scheduler.thread.holdsFlag = false →
        (service'.step? .raise).isSome := by
    intro service' hstop hmark hfree
    rw [← hstop] at hcalled
    rw [← hmark] at hnone
    simp [step?, hcalled, hnone, hfree]
  cases hphase : service.scheduler.thread.phase with
  | testing =>
    -- it begins to wait, and lets go of the lock
    have hstep : service.scheduler.thread.step? service.scheduler.stopRequested (fun _ => false) now
        service.traffic.recorder =
          some ⟨({ service.scheduler.thread with phase := .waiting }, service.traffic.recorder),
            []⟩ := by
      rw [FlushThread.step?, hphase, hflag]
      rfl
    exact .inr ⟨service.threadStep now _, Option.map_eq_some_iff.2 ⟨_, hstep, rfl⟩,
      hraise rfl rfl rfl⟩
  | reading =>
    have hstep : service.scheduler.thread.step? service.scheduler.stopRequested (fun _ => false) now
        service.traffic.recorder =
          some ⟨({ service.scheduler.thread with phase := .flushing false now .entering },
            service.traffic.recorder), []⟩ := by
      rw [FlushThread.step?, hphase, hflag]
    exact .inr ⟨service.threadStep now _, Option.map_eq_some_iff.2 ⟨_, hstep, rfl⟩,
      hraise rfl rfl rfl⟩
  | _ =>
    refine .inl (hraise rfl rfl ?_)
    rw [FlushThread.holdsFlag, hphase]

end Service

end StackProfiler
