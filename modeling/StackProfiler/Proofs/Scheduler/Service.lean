import StackProfiler.Proofs.Recorder.Lockings
import StackProfiler.Scheduler.Basic
/-!
# Flush schedulers — a scheduler in use

A recorder in use with a flush thread on it and one call that stops the thread:
between any two steps of the thread there may be any steps of recordings, of flushes
that others ask for, and of the stopping call. `Service` is the state of it all and
`Service.step?` is one step, of the thread by `FlushThread.step?` and of everybody
else by `Traffic.step?`.

Along with that the service keeps which flushes the thread has asked for, which of
them went to the exporter, and how things stood when the stop flag was raised. No
step of the thread or of a call depends on it.
-/

namespace StackProfiler

/-- A flush that the thread has asked for. -/
structure OwnFlush where
  /-- Its number among all flushes. -/
  number : Nat
  /-- What the thread had read from the stop flag before. -/
  stopping : Bool
  deriving DecidableEq

/-- How things stood when the stop flag was raised. -/
structure Mark where
  /-- How many flushes the thread had asked for. -/
  asked : Nat
  /-- How many of them had begun. -/
  begun : Nat
  /-- How many waits had begun. -/
  waits : Nat
  deriving DecidableEq

/-- **A scheduler in use.** -/
structure Service (P : Type) where
  traffic : Traffic P
  scheduler : Scheduler P
  /-- The flushes that the thread has asked for, in order. -/
  own : List OwnFlush
  /-- The flushes whose profiles the exporter was given, in order. -/
  exports : List Nat
  /-- How many times the thread has begun to wait. -/
  waits : Nat
  /-- How many recordings had returned when the scheduler was told to stop. -/
  stopCall : Option Nat
  mark : Option Mark
  /-- Whether the stopping call has returned. -/
  returned : Bool

/-- Whether a flush has begun: it has taken a step. -/
def Flush.begun {P : Type} : Flush P → Bool
  | .entering => false
  | .looking | .stamping .. | .opening .. | .locking .. | .switching .. | .taking .. | .leaving _
  | .done _ => true

/-- Whether the thread waits for its interval to pass. -/
def FlushThread.waits {P : Type} (thread : FlushThread P) : Bool :=
  match thread.phase with
  | .waiting => true
  | _ => false

namespace Service

variable {P : Type}

/-- What can happen next. -/
inductive Action
  /-- A call of somebody else on the recorder begins or goes on. -/
  | call (action : Traffic.Action)
  /-- The thread makes a step, with `now` on the clock. -/
  | thread (now : Instant)
  /-- The scheduler is told to stop, or dropped. -/
  | stop
  /-- The stopping call takes the lock of the stop flag and raises it. -/
  | raise
  /-- The thread has ended, and the stopping call returns. -/
  | join

/-- Others go on with their own flushes only. -/
def allows (service : Service P) : Traffic.Action → Bool
  | .flushStep i _ => service.own.all fun own => own.number ≠ i
  | .record _ | .recordStep | .flush _ => true

/-- Whether a flush of the thread has begun. -/
def hasBegun (service : Service P) (own : OwnFlush) : Bool :=
  (service.traffic.flushes[own.number]?.map fun call => call.phase.begun).getD false

/-- How many of them have. -/
def begun (service : Service P) : Nat := service.own.countP service.hasBegun

/-- A scheduler that has just been started, on a recorder in use. -/
def started (traffic : Traffic P) (scheduler : Scheduler P) : Service P where
  traffic := traffic
  scheduler := scheduler
  own := []
  exports := []
  waits := 0
  stopCall := none
  mark := none
  returned := false

/-- The service with the thread at another phase. -/
def setPhase (service : Service P) (phase : FlushPhase P) : Service P :=
  { service with
    scheduler :=
      { service.scheduler with thread := { service.scheduler.thread with phase := phase } } }

/-- What the next step of the thread is to the recorder: it asks for a flush, or goes
on with the one it has asked for last. -/
def threadAction? (service : Service P) (now : Instant) : Option Traffic.Action :=
  match service.scheduler.thread.phase with
  | .reading => some (.flush now)
  | .flushing _ _ flush =>
    match flush.result? with
    | some _ => none
    | none => service.own.getLast?.map fun own => .flushStep own.number now
  | _ => none

/-- The thread's flushes after its next step. -/
def ownAfter (service : Service P) : List OwnFlush :=
  match service.scheduler.thread.phase with
  | .reading =>
    service.own ++ [⟨service.traffic.flushes.length, service.scheduler.stopRequested⟩]
  | _ => service.own

/-- Which flushes have been exported after its next step. -/
def exportsAfter (service : Service P) : List Nat :=
  match service.scheduler.thread.phase with
  | .exporting .. => service.exports ++ (service.own.getLast?.map OwnFlush.number).toList
  | _ => service.exports

variable [ProfileStore P]

/-- After a step of the thread. -/
def threadStep (service : Service P) (now : Instant) (next : FlushThread P × Recorder P) :
    Service P :=
  { service with
    traffic :=
      { ((service.threadAction? now).bind service.traffic.step?).getD service.traffic with
        recorder := next.2 }
    scheduler := { service.scheduler with thread := next.1 }
    own := service.ownAfter
    exports := service.exportsAfter
    waits := service.waits + next.1.waits.toNat }

/-- **One step**; none if it has to wait or there is nothing to be done. The exporter
never panics. -/
def step? (service : Service P) : Action → Option (Service P)
  | .call action =>
    if service.allows action then
      (service.traffic.step? action).map fun traffic => { service with traffic := traffic }
    else none
  | .thread now =>
    (service.scheduler.thread.step? service.scheduler.stopRequested (fun _ => false) now
      service.traffic.recorder).map fun next => service.threadStep now next.value
  | .stop =>
    match service.stopCall with
    | none => some { service with stopCall := some service.traffic.recorded.length }
    | some _ => none
  | .raise =>
    if service.stopCall.isSome && service.mark.isNone && !service.scheduler.thread.holdsFlag then
      some { service with
        scheduler := { service.scheduler with stopRequested := true }
        mark := some ⟨service.own.length, service.begun, service.waits⟩ }
    else none
  | .join =>
    if service.mark.isSome && service.scheduler.thread.ended && !service.returned then
      some { service with returned := true }
    else none

/-- What some actions leave, taken in this order. One that has to wait is put off. -/
def after (service : Service P) (actions : List Action) : Service P :=
  actions.foldl (fun service action => (service.step? action).getD service) service

/-- **Whatever holds at first and is kept by every step** holds after any actions. -/
theorem after_induction {motive : Service P → Prop} {service : Service P} (h : motive service)
    (hstep : ∀ (before after : Service P) (action : Action), motive before →
      before.step? action = some after → motive after) (actions : List Action) :
    motive (service.after actions) := by
  induction actions generalizing service with
  | nil => exact h
  | cons action actions ih =>
    have hfirst : motive ((service.step? action).getD service) := by
      cases hnext : service.step? action with
      | none => exact h
      | some next => exact hstep service next action h hnext
    exact ih hfirst

/-- **The steps there are**: somebody else's, the thread's and those of the stopping
call. -/
theorem step?_cases {service service' : Service P} {action : Action}
    (h : service.step? action = some service') :
    (∃ call traffic, action = .call call ∧ service.allows call = true ∧
      service.traffic.step? call = some traffic ∧ service' = { service with traffic := traffic }) ∨
    (∃ now next, action = .thread now ∧
      service.scheduler.thread.step? service.scheduler.stopRequested (fun _ => false) now
        service.traffic.recorder = some next ∧
      service' = service.threadStep now next.value) ∨
    (action = .stop ∧ service.stopCall = none ∧
      service' = { service with stopCall := some service.traffic.recorded.length }) ∨
    (action = .raise ∧ service.stopCall.isSome ∧ service.mark = none ∧
      service.scheduler.thread.holdsFlag = false ∧ service' = { service with
        scheduler := { service.scheduler with stopRequested := true }
        mark := some ⟨service.own.length, service.begun, service.waits⟩ }) ∨
    (action = .join ∧ service.mark.isSome ∧ service.scheduler.thread.ended = true ∧
      service.returned = false ∧ service' = { service with returned := true }) := by
  cases action with
  | call call =>
    simp only [step?] at h
    split at h
    · next hallows =>
      obtain ⟨traffic, htraffic, hnext⟩ := Option.map_eq_some_iff.1 h
      exact .inl ⟨call, traffic, rfl, hallows, htraffic, hnext.symm⟩
    · cases h
  | thread now =>
    obtain ⟨next, hnext, hservice⟩ := Option.map_eq_some_iff.1 h
    exact .inr (.inl ⟨now, next, rfl, hnext, hservice.symm⟩)
  | stop =>
    simp only [step?] at h
    split at h
    · next hnone => exact .inr (.inr (.inl ⟨rfl, hnone, (Option.some.inj h).symm⟩))
    · cases h
  | raise =>
    simp only [step?] at h
    split at h
    · next hready =>
      simp only [Bool.and_eq_true, Bool.not_eq_true', Option.isNone_iff_eq_none] at hready
      obtain ⟨⟨hcalled, hnone⟩, hfree⟩ := hready
      exact .inr (.inr (.inr (.inl ⟨rfl, hcalled, hnone, hfree, (Option.some.inj h).symm⟩)))
    · cases h
  | join =>
    simp only [step?] at h
    split at h
    · next hready =>
      simp only [Bool.and_eq_true, Bool.not_eq_true'] at hready
      obtain ⟨⟨hraised, hended⟩, hopen⟩ := hready
      exact .inr (.inr (.inr (.inr ⟨rfl, hraised, hended, hopen, (Option.some.inj h).symm⟩)))
    · cases h

end Service

end StackProfiler
