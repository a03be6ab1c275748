import Mathlib.Data.List.Induction
import Mathlib.Logic.Function.Basic
import StackProfiler.Proofs.Recorder.Locks
/-!
# Recorders — calls that overlap

A recorder in use: one recording at a time, any number of flushes, and between
any two steps of one call any steps of the others. `Traffic` is the state of it
all, `Traffic.step?` is one step of one of the calls, which is a step of
`Recording` or of `Flush`, and `Traffic.after` is what any sequence of such steps
leaves.

Along with the calls the traffic keeps what has become of each sample: which
samples each store holds and which each flush has taken, as the calls that are
made on the stores say. No step depends on it.
-/

namespace StackProfiler

/-- A sample with the number of the call that records it. -/
structure Numbered where
  number : Nat
  sample : Sample
  deriving DecidableEq

/-- A recording that has returned. -/
structure Recorded where
  sample : Sample
  outcome : Except RecordError Unit

/-- A flush and how far it has come. -/
structure FlushCall (P : Type) where
  finish : Instant
  /-- How many recordings had returned when it was called. -/
  since : Nat
  phase : Flush P
  /-- What it has taken out of the stores. -/
  took : List Numbered

/-- **A recorder in use.** -/
structure Traffic (P : Type) where
  recorder : Recorder P
  /-- The recordings that have returned, in order. -/
  recorded : List Recorded
  /-- The recording that is under way. -/
  recording : Option (Sample × Recording)
  /-- The flushes that have been called, in order. -/
  flushes : List (FlushCall P)
  /-- What the stores hold. -/
  held : SlotId → List Numbered
  /-- The flushes that have returned, in the order in which they have. -/
  returned : List Nat

namespace Traffic

/-- What can happen next. -/
inductive Action
  /-- A sample is to be recorded. -/
  | record (sample : Sample)
  /-- The recording makes a step. -/
  | recordStep
  /-- A flush is asked for. -/
  | flush (finish : Instant)
  /-- A flush makes a step, with `now` on the clock. -/
  | flushStep (i : Nat) (now : Instant)

/-! ## Steps -/

/-- What the stores hold after a call that a recording makes. -/
def stored (held : SlotId → List Numbered) (number : Nat) :
    Option (SlotId × StoreCall) → SlotId → List Numbered
  | some (slot, .add sample) => Function.update held slot (held slot ++ [⟨number, sample⟩])
  | _ => held

/-- What the stores hold after a call that a flush makes. -/
def emptied (held : SlotId → List Numbered) :
    Option (SlotId × StoreCall) → SlotId → List Numbered
  | some (slot, .reset _) => Function.update held slot []
  | _ => held

/-- What a flush finds with a call that it makes. -/
def found (held : SlotId → List Numbered) : Option (SlotId × StoreCall) → List Numbered
  | some (slot, .reset _) => held slot
  | _ => []

end Traffic

variable {P : Type}

/-- A flush that is asked for now. -/
def FlushCall.called (finish : Instant) (since : Nat) : FlushCall P where
  finish := finish
  since := since
  phase := .entering
  took := []

/-- A flush after a step. -/
def FlushCall.stepped (call : FlushCall P) (held : SlotId → List Numbered) (phase : Flush P) :
    FlushCall P where
  finish := call.finish
  since := call.since
  phase := phase
  took := call.took ++ Traffic.found held call.phase.storeCall?

namespace Traffic

/-- The slot that the recording under way has locked. -/
def holding (traffic : Traffic P) : Option SlotId :=
  traffic.recording.bind fun recording => recording.2.slot?

/-- After a step of a flush, which may be its last. -/
def flushStep (traffic : Traffic P) (i : Nat) (call : FlushCall P) (phase : Flush P)
    (recorder : Recorder P) : Traffic P where
  recorder := recorder
  recorded := traffic.recorded
  recording := traffic.recording
  flushes := traffic.flushes.set i (call.stepped traffic.held phase)
  held := emptied traffic.held call.phase.storeCall?
  returned := if phase.result?.isSome then traffic.returned ++ [i] else traffic.returned

variable [ProfileStore P]

/-- A new recorder before the first call. -/
def new (enabled : EnabledMetrics) (now : Instant) : Traffic P where
  recorder := Recorder.new enabled now
  recorded := []
  recording := none
  flushes := []
  held := fun _ => []
  returned := []

/-- After a step of the recording, which may be its last. -/
def recordStep (traffic : Traffic P) (sample : Sample) (recording : Recording) : Traffic P where
  recorder := (recording.step sample traffic.recorder).2
  recorded := traffic.recorded ++
    ((recording.step sample traffic.recorder).1.outcome?.map (Recorded.mk sample)).toList
  recording :=
    match (recording.step sample traffic.recorder).1.outcome? with
    | some _ => none
    | none => some (sample, (recording.step sample traffic.recorder).1)
  flushes := traffic.flushes
  held := stored traffic.held traffic.recorded.length (recording.storeCall? sample)
  returned := traffic.returned

/-- **One step**; none if it has to wait or there is nothing to be done. -/
def step? (traffic : Traffic P) : Action → Option (Traffic P)
  | .record sample =>
    match traffic.recording with
    | none => some { traffic with recording := some (sample, .start) }
    | some _ => none
  | .recordStep =>
    traffic.recording.map fun recording => traffic.recordStep recording.1 recording.2
  | .flush finish =>
    some { traffic with flushes := traffic.flushes ++ [.called finish traffic.recorded.length] }
  | .flushStep i now => do
    let call ← traffic.flushes[i]?
    let next ← call.phase.step? call.finish now traffic.recorder
    return traffic.flushStep i call next.1 next.2

/-- What some actions leave, taken in this order. One that has to wait is put
off: it leaves all as it is. -/
def after (traffic : Traffic P) (actions : List Action) : Traffic P :=
  actions.foldl (fun traffic action => (traffic.step? action).getD traffic) traffic

/-- **Whatever holds at first and is kept by every step** holds after any actions. -/
theorem after_induction {motive : Traffic P → Prop} {traffic : Traffic P} (h : motive traffic)
    (hstep : ∀ (actions : List Action) (action : Action) (traffic' : Traffic P),
      motive (traffic.after actions) → (traffic.after actions).step? action = some traffic' →
      motive traffic') (actions : List Action) :
    motive (traffic.after actions) := by
  induction actions using List.reverseRecOn with
  | nil => exact h
  | append_singleton actions action ih =>
    have hafter : traffic.after (actions ++ [action]) =
        ((traffic.after actions).step? action).getD (traffic.after actions) := by
      rw [after, List.foldl_append]
      rfl
    rw [hafter]
    cases haction : (traffic.after actions).step? action with
    | none => exact ih
    | some traffic' => exact hstep actions action traffic' ih haction

/-- **The steps there are**: a recording begins, goes on or returns, a flush is
asked for, or a flush goes on or returns. -/
theorem step?_cases {traffic traffic' : Traffic P} {action : Action}
    (h : traffic.step? action = some traffic') :
    (∃ sample, action = .record sample ∧ traffic.recording = none ∧
      traffic' = { traffic with recording := some (sample, .start) }) ∨
    (∃ sample recording, action = .recordStep ∧ traffic.recording = some (sample, recording) ∧
      traffic' = traffic.recordStep sample recording) ∨
    (∃ finish, action = .flush finish ∧ traffic' =
      { traffic with flushes := traffic.flushes ++ [.called finish traffic.recorded.length] }) ∨
    (∃ i now call phase recorder, action = .flushStep i now ∧ traffic.flushes[i]? = some call ∧
      call.phase.step? call.finish now traffic.recorder = some (phase, recorder) ∧
      traffic' = traffic.flushStep i call phase recorder) := by
  cases action with
  | record sample =>
    simp only [step?] at h
    split at h
    · next hnone => exact .inl ⟨sample, rfl, hnone, (Option.some.inj h).symm⟩
    · cases h
  | recordStep =>
    obtain ⟨⟨sample, recording⟩, hrecording, hnext⟩ := Option.map_eq_some_iff.1 h
    exact .inr (.inl ⟨sample, recording, rfl, hrecording, hnext.symm⟩)
  | flush finish => exact .inr (.inr (.inl ⟨finish, rfl, (Option.some.inj h).symm⟩))
  | flushStep i now =>
    obtain ⟨call, hcall, hnext⟩ := Option.bind_eq_some_iff.1 h
    obtain ⟨⟨phase, recorder⟩, hphase, hstep⟩ := Option.bind_eq_some_iff.1 hnext
    exact .inr (.inr (.inr
      ⟨i, now, call, phase, recorder, rfl, hcall, hphase, (Option.some.inj hstep).symm⟩))

/-! ## What a step changes -/

/-- What stands in a list to which one more has been added at the end. -/
theorem getElem?_concat_eq_some_iff {α : Type} {l : List α} {a b : α} {j : Nat} :
    (l ++ [a])[j]? = some b ↔ l[j]? = some b ∨ (j = l.length ∧ a = b) := by
  rcases Nat.lt_trichotomy j l.length with hlt | heq | hgt
  · rw [List.getElem?_append_left hlt]
    exact ⟨.inl, fun h => h.elim id fun h => by omega⟩
  · subst heq
    simp
  · rw [List.getElem?_eq_none (by simp; omega), List.getElem?_eq_none (by omega)]
    constructor
    · intro h
      cases h
    · rintro (h | ⟨heq, -⟩)
      · cases h
      · omega

/-- What holds of the items of a list and of one more holds of all of them. -/
theorem of_getElem?_concat {α : Type} {l : List α} {a : α} {motive : Nat → α → Prop}
    (hold : ∀ (j : Nat) (b : α), l[j]? = some b → motive j b) (hnew : motive l.length a) (j : Nat)
    (b : α) (h : (l ++ [a])[j]? = some b) : motive j b := by
  rcases getElem?_concat_eq_some_iff.1 h with h | ⟨rfl, rfl⟩
  · exact hold j b h
  · exact hnew

omit [ProfileStore P] in
theorem flushes_flushStep {traffic : Traffic P} {i : Nat} {call : FlushCall P}
    (hcall : traffic.flushes[i]? = some call) (phase : Flush P) (recorder : Recorder P) (j : Nat) :
    (traffic.flushStep i call phase recorder).flushes[j]? =
      if j = i then some (call.stepped traffic.held phase) else traffic.flushes[j]? := by
  obtain ⟨hlt, -⟩ := List.getElem?_eq_some_iff.1 hcall
  rw [flushStep, List.getElem?_set]
  by_cases hji : j = i
  · rw [if_pos hji.symm, if_pos hlt, if_pos hji]
  · rw [if_neg (Ne.symm hji), if_neg hji]

omit [ProfileStore P] in
/-- **What holds of all flushes after a step of one** holds of that one after it and
of every other before it. -/
theorem of_flushes_flushStep {traffic : Traffic P} {i : Nat} {call : FlushCall P}
    (hcall : traffic.flushes[i]? = some call) {phase : Flush P} {recorder : Recorder P}
    {motive : Nat → FlushCall P → Prop} (hself : motive i (call.stepped traffic.held phase))
    (hrest : ∀ (j : Nat) (other : FlushCall P), j ≠ i → traffic.flushes[j]? = some other →
      motive j other) (j : Nat) (other : FlushCall P)
    (hother : (traffic.flushStep i call phase recorder).flushes[j]? = some other) :
    motive j other := by
  rw [flushes_flushStep hcall] at hother
  by_cases hji : j = i
  · rw [if_pos hji] at hother
    obtain rfl := Option.some.inj hother
    rw [hji]
    exact hself
  · rw [if_neg hji] at hother
    exact hrest j other hji hother

/-- The recording holds what its next step says. -/
theorem holding_recordStep (traffic : Traffic P) (sample : Sample) (recording : Recording) :
    (traffic.recordStep sample recording).holding =
      (recording.step sample traffic.recorder).1.slot? := by
  simp only [holding, recordStep]
  cases (recording.step sample traffic.recorder).1 <;> rfl

/-- A recording that does not return with a step is under way after it. -/
theorem recordStep_of_outcome?_eq_none {traffic : Traffic P} (sample : Sample)
    {recording : Recording}
    (h : (recording.step sample traffic.recorder).1.outcome? = none) :
    (traffic.recordStep sample recording).recording =
        some (sample, (recording.step sample traffic.recorder).1) ∧
      (traffic.recordStep sample recording).recorded = traffic.recorded := by
  constructor
  · simp only [recordStep, h]
  · rw [recordStep, h, Option.map_none, Option.toList_none, List.append_nil]

/-- One that returns with a step is with the others that have. -/
theorem recordStep_of_outcome?_eq_some {traffic : Traffic P} (sample : Sample)
    {recording : Recording} {outcome : Except RecordError Unit}
    (h : (recording.step sample traffic.recorder).1.outcome? = some outcome) :
    (traffic.recordStep sample recording).recording = none ∧
      (traffic.recordStep sample recording).recorded = traffic.recorded ++ [⟨sample, outcome⟩] := by
  constructor
  · simp only [recordStep, h]
  · rw [recordStep, h, Option.map_some, Option.toList_some]

/-- **What has returned stays returned**, with the outcome it had. -/
theorem recorded_of_step? {traffic traffic' : Traffic P} {action : Action}
    (h : traffic.step? action = some traffic') {number : Nat} {recorded : Recorded}
    (hrecorded : traffic.recorded[number]? = some recorded) :
    traffic'.recorded[number]? = some recorded := by
  rcases step?_cases h with ⟨sample, -, -, rfl⟩ | ⟨sample, recording, -, -, rfl⟩ |
    ⟨finish, -, rfl⟩ | ⟨i, now, call, phase, recorder, -, -, -, rfl⟩
  · exact hrecorded
  · obtain ⟨hlt, -⟩ := List.getElem?_eq_some_iff.1 hrecorded
    exact (List.getElem?_append_left hlt).trans hrecorded
  · exact hrecorded
  · exact hrecorded

end Traffic

end StackProfiler
