import StackProfiler.Proofs.Scheduler.Shutdown
/-!
# Flush schedulers — an exporter that panics

A scheduler whose exporter does not return from some of its calls (`Service.stepWith?`).
The thread ends in the first of these calls, with its flush behind it and without the
lock of the flag: but for the thread, which does nothing more, all is as if the exporter
had returned (`Service.Fallen`). Until then all is as with an exporter that returns
(`Service.Unharmed`), and the stopping call returns in both cases.
-/

namespace StackProfiler

/-- **Where a panic shows**: in the step that calls the exporter, and in no other. -/
theorem FlushThread.step?_cases_of_panics {P : Type} [ProfileStore P] {stop : Bool}
    {panics : Nat → Bool} {now : Instant} {thread : FlushThread P} {recorder : Recorder P}
    {next : Logged (FlushThread P × Recorder P)}
    (h : thread.step? stop panics now recorder = some next) :
    (thread.step? stop (fun _ => false) now recorder = some next ∧
        next.value.1.exported = thread.exported) ∨
      ∃ stopping flushed, thread.phase = .exporting stopping flushed ∧
        next = ⟨(⟨if panics (thread.exported.length + 1) then .panicked else .resuming stopping,
          thread.exported ++ [flushed]⟩, recorder), []⟩ := by
  obtain ⟨phase, exported⟩ := thread
  cases phase with
  | flushing stopping finish flush =>
    refine .inl ⟨h, ?_⟩
    simp only [step?] at h
    split at h
    · split at h <;> (obtain rfl := Option.some.inj h; rfl)
    · obtain ⟨flushed, -, rfl⟩ := Option.map_eq_some_iff.1 h
      rfl
  | exporting stopping flushed =>
    refine .inr ⟨stopping, flushed, rfl, ?_⟩
    rw [← Option.some.inj h, List.length_append]
    rfl
  | exited => cases h
  | panicked => cases h
  | _ =>
    obtain rfl := Option.some.inj h
    exact .inl ⟨rfl, rfl⟩

namespace Service

variable {P : Type} [ProfileStore P] {panics : Nat → Bool}

/-! ## Steps -/

/-- **One step** of a scheduler whose exporter does not return from some of its calls,
which are counted from one. -/
def stepWith? (panics : Nat → Bool) (service : Service P) : Action → Option (Service P)
  | .thread now =>
    (service.scheduler.thread.step? service.scheduler.stopRequested panics now
      service.traffic.recorder).map fun next => service.threadStep now next.value
  | action => service.step? action

/-- What some actions leave, taken in this order. One that has to wait is put off. -/
def afterWith (panics : Nat → Bool) (service : Service P) (actions : List Action) : Service P :=
  actions.foldl (fun service action => (service.stepWith? panics action).getD service) service

/-- An exporter that always returns makes no difference. -/
theorem stepWith?_never (service : Service P) (action : Action) :
    service.stepWith? (fun _ => false) action = service.step? action := by
  cases action <;> rfl

/-- Nor does it to any actions. -/
theorem afterWith_never (service : Service P) (actions : List Action) :
    service.afterWith (fun _ => false) actions = service.after actions := by
  simp only [afterWith, stepWith?_never]
  rfl

theorem afterWith_append (panics : Nat → Bool) (service : Service P) (actions rest : List Action) :
    service.afterWith panics (actions ++ rest) =
      (service.afterWith panics actions).afterWith panics rest :=
  List.foldl_append

/-- **Whatever holds at first and is kept by every step** holds after any actions. -/
theorem afterWith_induction {motive : Service P → Prop} {service : Service P}
    (h : motive service) (hstep : ∀ (before after : Service P) (action : Action), motive before →
      before.stepWith? panics action = some after → motive after) (actions : List Action) :
    motive (service.afterWith panics actions) := by
  induction actions generalizing service with
  | nil => exact h
  | cons action actions ih =>
    have hfirst : motive ((service.stepWith? panics action).getD service) := by
      cases hnext : service.stepWith? panics action with
      | none => exact h
      | some next => exact hstep service next action h hnext
    exact ih hfirst

/-- **The steps there are**: those of a scheduler whose exporter returns, but that the
thread may end where it calls the exporter. -/
theorem stepWith?_cases {service service' : Service P} {action : Action}
    (h : service.stepWith? panics action = some service') :
    (service.step? action = some service' ∧
        service'.scheduler.thread.exported = service.scheduler.thread.exported) ∨
      ∃ now stopping flushed twin, action = .thread now ∧
        service.scheduler.thread.phase = .exporting stopping flushed ∧
        service.step? (.thread now) = some twin ∧
        twin.scheduler.thread =
          ⟨.resuming stopping, service.scheduler.thread.exported ++ [flushed]⟩ ∧
        service' = if panics (service.scheduler.thread.exported.length + 1) then
          twin.setPhase .panicked else twin := by
  -- nobody but the thread calls the exporter
  have hothers : (∀ now, action ≠ .thread now) → service.step? action = some service' →
      service'.scheduler.thread.exported = service.scheduler.thread.exported := by
    intro hothers hsame
    rcases step?_cases hsame with ⟨call, traffic, -, -, -, rfl⟩ | ⟨now, next, haction, -⟩ |
      ⟨-, -, rfl⟩ | ⟨-, -, -, -, rfl⟩ | ⟨-, -, -, -, rfl⟩
    · rfl
    · exact absurd haction (hothers now)
    · rfl
    · rfl
    · rfl
  cases action with
  | thread now =>
    obtain ⟨next, hnext, rfl⟩ := Option.map_eq_some_iff.1 h
    rcases FlushThread.step?_cases_of_panics hnext with ⟨hsame, hexported⟩ |
      ⟨stopping, flushed, hphase, rfl⟩
    · exact .inl ⟨Option.map_eq_some_iff.2 ⟨next, hsame, rfl⟩, hexported⟩
    · refine .inr ⟨now, stopping, flushed, service.threadStep now
        (⟨.resuming stopping, service.scheduler.thread.exported ++ [flushed]⟩,
          service.traffic.recorder), rfl, hphase, ?_, rfl, ?_⟩
      · rw [step?, FlushThread.step?, hphase]
        rfl
      · cases panics (service.scheduler.thread.exported.length + 1) <;> rfl
  | call call => exact .inl ⟨h, hothers (fun _ => Action.noConfusion) h⟩
  | stop => exact .inl ⟨h, hothers (fun _ => Action.noConfusion) h⟩
  | raise => exact .inl ⟨h, hothers (fun _ => Action.noConfusion) h⟩
  | join => exact .inl ⟨h, hothers (fun _ => Action.noConfusion) h⟩

/-- **Whoever has a step to make** has one whether the exporter returns or not. -/
theorem isSome_stepWith? (service : Service P) (action : Action) :
    (service.stepWith? panics action).isSome = (service.step? action).isSome := by
  cases action with
  | thread now =>
    rw [stepWith?, step?, Option.isSome_map, Option.isSome_map, FlushThread.step?,
      FlushThread.step?]
    cases service.scheduler.thread.phase <;> rfl
  | _ => rfl

/-! ## Before and after a panic -/

/-- **The exporter has returned from every call** so far. -/
structure Unharmed (panics : Nat → Bool) (service : Service P) : Prop where
  tied : service.Tied
  signalled : service.Signalled
  returns : ∀ n, 0 < n → n ≤ service.scheduler.thread.exported.length → panics n = false

/-- **The exporter has panicked** in its last call, and in none before. But for the
thread, all is as if it had returned. -/
structure Fallen (panics : Nat → Bool) (service : Service P) : Prop where
  phase_eq : service.scheduler.thread.phase = .panicked
  tied : ∃ stopping, (service.setPhase (.resuming stopping)).Tied
  /-- It is the thread's last flush that it was called for. -/
  exports_getLast? : service.exports.getLast? = service.own.getLast?.map OwnFlush.number
  pos : 0 < service.scheduler.thread.exported.length
  panics_length : panics service.scheduler.thread.exported.length = true
  returns : ∀ n, 0 < n → n < service.scheduler.thread.exported.length → panics n = false

/-- It is one or the other. -/
def Endures (panics : Nat → Bool) (service : Service P) : Prop :=
  service.Unharmed panics ∨ service.Fallen panics

/-- A thread that is tied has not panicked. -/
theorem Tied.phase_ne_panicked {service : Service P} (h : service.Tied) :
    service.scheduler.thread.phase ≠ .panicked := by
  intro hphase
  have hstands := h.stands
  rw [hphase] at hstands
  exact hstands

/-- What is exported with a step is what the thread has flushed last. -/
theorem Tied.exports_getLast?_of_step? {service service' : Service P} (h : service.Tied)
    {now : Instant} (hstep : service.step? (.thread now) = some service') {stopping : Bool}
    {flushed : Flushed P} (hphase : service.scheduler.thread.phase = .exporting stopping flushed) :
    service'.exports.getLast? = service'.own.getLast?.map OwnFlush.number := by
  obtain ⟨next, hnext, rfl⟩ := Option.map_eq_some_iff.1 hstep
  have hmakes := h.threadMakes hnext
  rw [hphase] at hmakes
  generalize service.threadStep now next.value = service' at hmakes
  cases hmakes with
  | deliver stopping i flushed hlast =>
    show (service.exports ++ [i]).getLast? = service.own.getLast?.map OwnFlush.number
    rw [List.getLast?_concat, hlast.getLast?_eq]
    rfl

/-- **A step of a scheduler that is unharmed**: the exporter returns, or it panics. -/
theorem Unharmed.step {service service' : Service P} {action : Action}
    (h : service.Unharmed panics) (hstep : service.stepWith? panics action = some service') :
    service'.Endures panics := by
  rcases stepWith?_cases hstep with ⟨hsame, hexported⟩ |
    ⟨now, stopping, flushed, twin, -, hexporting, htwin, hthread, rfl⟩
  · refine .inl ⟨h.tied.step hsame, h.signalled.step h.tied hsame, ?_⟩
    rw [hexported]
    exact h.returns
  · have htied := h.tied.step htwin
    have hlength : twin.scheduler.thread.exported.length =
        service.scheduler.thread.exported.length + 1 := by
      rw [hthread, List.length_append]
      rfl
    cases hpanics : panics (service.scheduler.thread.exported.length + 1) with
    | false =>
      refine .inl ⟨htied, h.signalled.step h.tied htwin, fun n hpos hle => ?_⟩
      rcases Nat.lt_or_eq_of_le (hlength ▸ hle) with hlt | rfl
      · exact h.returns n hpos (Nat.le_of_lt_succ hlt)
      · exact hpanics
    | true =>
      have hphase : twin.scheduler.thread.phase = .resuming stopping := by rw [hthread]
      have hlast := h.tied.exports_getLast?_of_step? htwin hexporting
      refine .inr ⟨rfl, ⟨stopping, ?_⟩, hlast, ?_, ?_, ?_⟩
      · exact htied.setPhase (hphase ▸ htied.stands)
      · exact Nat.lt_of_lt_of_eq (Nat.succ_pos _) hlength.symm
      · exact (congrArg panics hlength).trans hpanics
      · exact fun n hpos hlt => h.returns n hpos (Nat.le_of_lt_succ (Nat.lt_of_lt_of_eq hlt hlength))

namespace Fallen

variable {service service' : Service P} {action : Action} (h : service.Fallen panics)
include h

/-- **Its steps** are those of others and of the stopping call. -/
theorem step?_of_stepWith? (hstep : service.stepWith? panics action = some service') :
    service.step? action = some service' ∧ ∀ now, action ≠ .thread now := by
  constructor
  · rcases stepWith?_cases hstep with ⟨hsame, -⟩ | ⟨now, stopping, flushed, twin, -, hphase, -⟩
    · exact hsame
    · rw [h.phase_eq] at hphase
      cases hphase
  · rintro now rfl
    rw [stepWith?, FlushThread.step?, h.phase_eq] at hstep
    cases hstep

/-- They leave the thread and its flushes alone. -/
theorem thread_of_stepWith? (hstep : service.stepWith? panics action = some service') :
    service'.scheduler.thread = service.scheduler.thread ∧ service'.own = service.own ∧
      service'.exports = service.exports ∧
      ((∃ call, service.allows call = true ∧
          service.traffic.step? call = some service'.traffic) ∨
        service'.traffic = service.traffic) := by
  obtain ⟨hsame, hothers⟩ := h.step?_of_stepWith? hstep
  rcases step?_cases hsame with ⟨call, traffic, -, hallows, hnext, rfl⟩ | ⟨now, next, haction, -⟩ |
    ⟨-, -, rfl⟩ | ⟨-, -, -, -, rfl⟩ | ⟨-, -, -, -, rfl⟩
  · exact ⟨rfl, rfl, rfl, .inl ⟨call, hallows, hnext⟩⟩
  · exact absurd haction (hothers now)
  · exact ⟨rfl, rfl, rfl, .inr rfl⟩
  · exact ⟨rfl, rfl, rfl, .inr rfl⟩
  · exact ⟨rfl, rfl, rfl, .inr rfl⟩

/-- **Nothing raises it again.** -/
theorem step (hstep : service.stepWith? panics action = some service') :
    service'.Fallen panics := by
  obtain ⟨hthread, hown, hexports, htraffic⟩ := h.thread_of_stepWith? hstep
  obtain ⟨hphase, ⟨stopping, htied⟩, hlast, hpos, hpanics, hreturns⟩ := h
  refine ⟨hthread ▸ hphase, ⟨stopping, ?_⟩, hexports ▸ hown ▸ hlast, hthread ▸ hpos,
    hthread ▸ hpanics, hthread ▸ hreturns⟩
  refine htied.congr ?_ hown hexports fun own hmem => ?_
  · show FlushThread.mk _ service'.scheduler.thread.exported = FlushThread.mk _ _
    rw [hthread]
  · rcases htraffic with ⟨call, hallows, hnext⟩ | hsame
    · have hallows : (service.setPhase (.resuming stopping)).allows call = true := hallows
      exact htied.getElem?_flushes_of_allows hallows hnext hmem
    · exact congrArg (fun traffic : Traffic P => traffic.flushes[own.number]?) hsame

/-- **The exporter is not called again**, whatever happens. -/
theorem thread_afterWith (actions : List Action) :
    (service.afterWith panics actions).scheduler.thread = service.scheduler.thread := by
  have hall : (service.afterWith panics actions).Fallen panics ∧
      (service.afterWith panics actions).scheduler.thread = service.scheduler.thread :=
    afterWith_induction (motive := fun now => now.Fallen panics ∧
      now.scheduler.thread = service.scheduler.thread) ⟨h, rfl⟩
      (fun _ _ _ hbefore hnext => ⟨hbefore.1.step hnext,
        (hbefore.1.thread_of_stepWith? hnext).1.trans hbefore.2⟩) actions
  exact hall.2

end Fallen

namespace Endures

variable {service : Service P} (h : service.Endures panics)
include h

/-- **Every step keeps it.** -/
theorem step {service' : Service P} {action : Action}
    (hstep : service.stepWith? panics action = some service') : service'.Endures panics :=
  h.elim (fun hunharmed => hunharmed.step hstep) fun hfallen => .inr (hfallen.step hstep)

/-- To the recorder a step is a step of one of its calls, if it is anything. -/
theorem traffic_of_stepWith? {service' : Service P} {action : Action}
    (hstep : service.stepWith? panics action = some service') :
    service'.traffic = service.traffic ∨
      ∃ call, service.traffic.step? call = some service'.traffic := by
  rcases h with hunharmed | hfallen
  · rcases stepWith?_cases hstep with ⟨hsame, -⟩ |
      ⟨now, stopping, flushed, twin, -, -, htwin, -, rfl⟩
    · exact hunharmed.tied.traffic_of_step? hsame
    · have htraffic := hunharmed.tied.traffic_of_step? htwin
      split
      · exact htraffic
      · exact htraffic
  · obtain ⟨-, -, -, ⟨call, -, hnext⟩ | hsame⟩ := hfallen.thread_of_stepWith? hstep
    · exact .inr ⟨call, hnext⟩
    · exact .inl hsame

/-- **The recorder goes on as one in use**, whatever happens. -/
theorem exists_calls (actions : List Action) :
    ∃ calls, (service.afterWith panics actions).traffic = service.traffic.after calls := by
  have hall : (service.afterWith panics actions).Endures panics ∧
      ∃ calls, (service.afterWith panics actions).traffic = service.traffic.after calls :=
    afterWith_induction (motive := fun now => now.Endures panics ∧
      ∃ calls, now.traffic = service.traffic.after calls) ⟨h, [], rfl⟩
      (fun _ _ _ hbefore hstep => ⟨hbefore.1.step hstep,
        Traffic.exists_after_of_step hbefore.2 (hbefore.1.traffic_of_stepWith? hstep)⟩) actions
  exact hall.2

/-- **The thread has panicked** if and only if the exporter does not return from its
last call. -/
theorem panicked_iff : service.scheduler.thread.phase = .panicked ↔
    0 < service.scheduler.thread.exported.length ∧
      panics service.scheduler.thread.exported.length = true := by
  rcases h with hunharmed | hfallen
  · refine iff_of_false hunharmed.tied.phase_ne_panicked fun ⟨hpos, hpanics⟩ => ?_
    rw [hunharmed.returns _ hpos (Nat.le_refl _)] at hpanics
    cases hpanics
  · exact iff_of_true hfallen.phase_eq ⟨hfallen.pos, hfallen.panics_length⟩

/-- From every call before the last it has returned. -/
theorem returns (n : Nat) (hpos : 0 < n) (hlt : n < service.scheduler.thread.exported.length) :
    panics n = false :=
  h.elim (fun hunharmed => hunharmed.returns n hpos (Nat.le_of_lt hlt))
    fun hfallen => hfallen.returns n hpos hlt

/-- It has fallen if it has panicked. -/
theorem fallen (hphase : service.scheduler.thread.phase = .panicked) : service.Fallen panics :=
  h.resolve_left fun hunharmed => hunharmed.tied.phase_ne_panicked hphase

end Endures

theorem endures_started (traffic : Traffic P) (interval : Duration) :
    (started traffic ⟨interval, false, .new⟩).Endures panics :=
  .inl ⟨tied_started traffic interval, signalled_started traffic interval,
    fun _ hpos hle => absurd hpos (Nat.not_lt.2 hle)⟩

/-! ## The stopping call returns -/

/-- **Behind a panic** the stopping call has only its own steps to make. -/
theorem returned_of_panicked {service : Service P}
    (hphase : service.scheduler.thread.phase = .panicked) :
    (service.afterWith panics [.stop, .raise, .join]).returned = true := by
  obtain ⟨traffic, ⟨interval, stopRequested, ⟨phase, exported⟩⟩, own, exports, waits, stopCall,
    mark, returned⟩ := service
  obtain rfl : phase = .panicked := hphase
  cases stopCall <;> cases mark <;> cases returned <;> rfl

namespace Endures

variable {service : Service P} (h : service.Endures panics)
include h

/-- **The stopping call waits for the lock of the flag** during one step of the thread
at most. -/
theorem raises (hcalled : service.stopCall.isSome) (hnone : service.mark = none) (now : Instant) :
    (service.stepWith? panics .raise).isSome ∨
      ∃ service', service.stepWith? panics (.thread now) = some service' ∧
        (service'.stepWith? panics .raise).isSome := by
  rcases h with hunharmed | hfallen
  · rcases raise_or_thread_raise hunharmed.signalled hcalled hnone now with hraise |
      ⟨service', hthread, hraise⟩
    · exact .inl hraise
    · have hsome : (service.stepWith? panics (.thread now)).isSome := by
        rw [isSome_stepWith?, hthread]
        rfl
      obtain ⟨service'', hwith⟩ := Option.isSome_iff_exists.1 hsome
      rcases stepWith?_cases hwith with ⟨hsame, -⟩ | ⟨-, stopping, flushed, twin, -, hphase, -⟩
      · obtain rfl := Option.some.inj (hthread.symm.trans hsame)
        exact .inr ⟨service', hwith, hraise⟩
      · -- while it calls the exporter the thread does not have the lock
        have hfree : service.scheduler.thread.holdsFlag = false := by
          rw [FlushThread.holdsFlag, hphase]
        exact .inl (by simp [stepWith?, step?, hcalled, hnone, hfree])
  · refine .inl ?_
    have hfree : service.scheduler.thread.holdsFlag = false := by
      rw [FlushThread.holdsFlag, hfallen.phase_eq]
    simp [stepWith?, step?, hcalled, hnone, hfree]

/-- **Once the flag is raised** somebody can make a step until the stopping call has
returned. -/
theorem goesOn (horderly : service.traffic.Orderly) (hmark : service.mark.isSome)
    (now : Instant) :
    service.returned = true ∨ (service.stepWith? panics .join).isSome ∨
      (service.stepWith? panics (.thread now)).isSome ∨
      (service.stepWith? panics (.call .recordStep)).isSome ∨
      ∃ i, (service.stepWith? panics (.call (.flushStep i now))).isSome := by
  rcases h with hunharmed | hfallen
  · simp only [isSome_stepWith?]
    exact exists_step hunharmed.tied horderly hmark now
  · cases hreturned : service.returned with
    | true => exact .inl rfl
    | false =>
      have hended : service.scheduler.thread.ended = true := by
        rw [FlushThread.ended, hfallen.phase_eq]
      exact .inr (.inl (by simp [stepWith?, step?, hmark, hended, hreturned]))

/-- **Every step counts** once the flag is raised. -/
theorem stepsLeft_lt (hmark : service.mark.isSome) {service' : Service P} {action : Action}
    (hgoesOn : action.goesOn = true)
    (hstep : service.stepWith? panics action = some service') :
    service'.stepsLeft < service.stepsLeft := by
  rcases h with hunharmed | hfallen
  · have hflag := hunharmed.signalled.requested.trans hmark
    rcases stepWith?_cases hstep with ⟨hsame, -⟩ |
      ⟨now, stopping, flushed, twin, -, -, htwin, -, rfl⟩
    · exact Service.stepsLeft_lt hunharmed.tied hflag hgoesOn hsame
    · have hmoves : Action.goesOn (.thread now) = true := rfl
      have hlt := Service.stepsLeft_lt hunharmed.tied hflag hmoves htwin
      have hle : (twin.setPhase .panicked).stepsLeft ≤ twin.stepsLeft := by
        rw [stepsLeft, stepsLeft]
        show twin.traffic.stepsLeft + 0 + (!twin.returned).toNat ≤ _
        omega
      split
      · exact Nat.lt_of_le_of_lt hle hlt
      · exact hlt
  · obtain ⟨hsame, hothers⟩ := hfallen.step?_of_stepWith? hstep
    rcases step?_cases hsame with ⟨call, traffic, rfl, -, hnext, rfl⟩ | ⟨now, next, haction, -⟩ |
      ⟨rfl, -, -⟩ | ⟨rfl, -, -, -, -⟩ | ⟨-, -, -, hopen, rfl⟩
    · exact stepsLeft_call hgoesOn hnext
    · exact absurd haction (hothers now)
    · cases hgoesOn
    · cases hgoesOn
    · exact stepsLeft_join hopen

end Endures

end Service

end StackProfiler
