import StackProfiler.Proofs.Recorder.Contention
/-!
# Recorders — dropped samples

A recording during which fewer than five flushes take the lock of their old slot
has its sample recorded (`recorded_of_few_lockings`), and dropped samples are
counted (`dropped_after`). A recorder that is made anew after a fork starts as a
new one does, its count included, so all of this holds of what has happened since
then (`drops_after`).
-/

namespace StackProfiler

/-! ## What never changes and what only drops change -/

/-- A step of a flush neither drops a sample nor changes what is measured. -/
theorem Flush.enabled_and_dropped_of_step? {P : Type} [ProfileStore P] {finish now : Instant}
    {recorder recorder' : Recorder P} {flush next : Flush P}
    (h : flush.step? finish now recorder = some (next, recorder')) :
    recorder'.enabled = recorder.enabled ∧ recorder'.dropped = recorder.dropped := by
  cases Flush.makes_of_step? h with
  | enter hfree => exact ⟨rfl, rfl⟩
  | look => exact ⟨rfl, rfl⟩
  | stamp old moment => exact ⟨recorder.enabled_setSlot .., recorder.dropped_setSlot ..⟩
  | unlock old moment => exact ⟨recorder.enabled_setSlot .., recorder.dropped_setSlot ..⟩
  | lock old moment hfree => exact ⟨recorder.enabled_setSlot .., recorder.dropped_setSlot ..⟩
  | switch old moment => exact ⟨rfl, rfl⟩
  | take old moment => exact ⟨recorder.enabled_setSlot .., recorder.dropped_setSlot ..⟩
  | leave flushed => exact ⟨rfl, rfl⟩

/-- Whether the next step of a recording drops its sample. -/
def Recording.drops : Recording → Bool
  | .dropping => true
  | .trying .. | .adding _ | .releasing _ | .done _ => false

/-- **The count of dropped samples** is what a step that drops one adds to. -/
theorem Recording.dropped_step {P : Type} [ProfileStore P] (sample : Sample)
    (recorder : Recorder P) (recording : Recording) :
    (recording.step sample recorder).2.dropped =
      recorder.dropped + UInt64.ofNat recording.drops.toNat := by
  have hzero : recorder.dropped + UInt64.ofNat 0 = recorder.dropped := UInt64.add_zero _
  cases recording with
  | trying round slot =>
    simp only [step]
    split
    · exact hzero.symm
    · exact (recorder.dropped_setSlot ..).trans hzero.symm
  | adding slot => exact (recorder.dropped_setSlot ..).trans hzero.symm
  | releasing slot => exact (recorder.dropped_setSlot ..).trans hzero.symm
  | dropping => rfl
  | done outcome => exact hzero.symm

/-- With such a step, and no other, a recording returns without having recorded its
sample. -/
theorem Recording.countP_refused_step {P : Type} [ProfileStore P] (sample : Sample)
    (recorder : Recorder P) {recording : Recording} (h : recording.outcome? = none) :
    ((recording.step sample recorder).1.outcome?.map (Recorded.mk sample)).toList.countP
      Recorded.refused = recording.drops.toNat := by
  cases recording with
  | trying round slot =>
    simp only [step]
    split
    · cases slot with
      | one => rfl
      | two =>
        rw [afterMiss]
        split <;> rfl
    · rfl
  | adding slot => rfl
  | releasing slot => rfl
  | dropping => rfl
  | done outcome => cases h

/-- A step of a recording does not change what is measured. -/
theorem Recording.enabled_step {P : Type} [ProfileStore P] (sample : Sample)
    (recorder : Recorder P) (recording : Recording) :
    (recording.step sample recorder).2.enabled = recorder.enabled := by
  cases recording with
  | trying round slot =>
    simp only [step]
    split
    · rfl
    · exact recorder.enabled_setSlot ..
  | adding slot => exact recorder.enabled_setSlot ..
  | releasing slot => exact recorder.enabled_setSlot ..
  | dropping => rfl
  | done outcome => rfl

/-- A recording that is under way has a step left. -/
theorem Recording.stepsLeft_pos {recording : Recording} (h : recording.outcome? = none) :
    0 < recording.stepsLeft := by
  cases recording with
  | trying round slot => cases slot <;> exact Nat.succ_pos _
  | done outcome => cases h
  | _ => exact Nat.succ_pos _

namespace Traffic

variable {P : Type} [ProfileStore P]

/-! ## How far a recording has come -/

/-- Whether an action is a step of the recording. -/
def Action.isRecordStep : Action → Bool
  | .recordStep => true
  | .record _ | .flush _ | .flushStep .. => false

/-- **A recording that has begun**: it is under way and has made so many steps, or
it has returned. -/
def Begun (traffic : Traffic P) (number : Nat) (sample : Sample) (steps : Nat) : Prop :=
  (traffic.recorded.length = number ∧ ∃ recording, traffic.recording = some (sample, recording) ∧
    recording.outcome? = none ∧ recording.stepsLeft + steps ≤ Recording.start.stepsLeft) ∨
  ∃ outcome, traffic.recorded[number]? = some ⟨sample, outcome⟩

/-- A recording makes its steps, and what others do does not stop it. -/
theorem Begun.step {traffic traffic' : Traffic P} {number : Nat} {sample : Sample} {steps : Nat}
    (h : traffic.Begun number sample steps) {action : Action}
    (hstep : traffic.step? action = some traffic') :
    traffic'.Begun number sample (steps + action.isRecordStep.toNat) := by
  rcases h with ⟨hnumber, recording, hrecording, hgoing, hsteps⟩ | ⟨outcome, hreturned⟩
  · rcases step?_cases hstep with ⟨sample', -, hnone, -⟩ | ⟨sample', recording', rfl, hsome, rfl⟩ |
      ⟨finish, rfl, rfl⟩ | ⟨i, now, call, phase, recorder, rfl, -, -, rfl⟩
    · rw [hrecording] at hnone
      cases hnone
    · obtain ⟨rfl, rfl⟩ := Prod.mk.inj (Option.some.inj (hrecording.symm.trans hsome))
      cases hnext : (recording.step sample traffic.recorder).1.outcome? with
      | none =>
        obtain ⟨hunderWay, hrecorded⟩ := recordStep_of_outcome?_eq_none sample hnext
        have hless : (recording.step sample traffic.recorder).1.stepsLeft < recording.stepsLeft :=
          Recording.step_stepsLeft_lt hgoing
        refine .inl ⟨by rw [hrecorded, hnumber], _, hunderWay, hnext, ?_⟩
        show _ + (steps + 1) ≤ _
        omega
      | some outcome =>
        obtain ⟨-, hrecorded⟩ := recordStep_of_outcome?_eq_some sample hnext
        exact .inr ⟨outcome, hrecorded ▸ getElem?_concat_eq_some_iff.2 (.inr ⟨hnumber.symm, rfl⟩)⟩
    · exact .inl ⟨hnumber, recording, hrecording, hgoing, hsteps⟩
    · exact .inl ⟨hnumber, recording, hrecording, hgoing, hsteps⟩
  · exact .inr ⟨outcome, recorded_of_step? hstep hreturned⟩

/-- A recording never waits, so an action that is put off is not one of its steps. -/
theorem Begun.putOff {traffic : Traffic P} {number : Nat} {sample : Sample} {steps : Nat}
    (h : traffic.Begun number sample steps) {action : Action}
    (hstep : traffic.step? action = none) :
    traffic.Begun number sample (steps + action.isRecordStep.toNat) := by
  rcases h with ⟨hnumber, recording, hrecording, hgoing, hsteps⟩ | hreturned
  · cases action with
    | recordStep =>
      rw [step?, hrecording] at hstep
      cases hstep
    | _ => exact .inl ⟨hnumber, recording, hrecording, hgoing, hsteps⟩
  · exact .inr hreturned

/-- **Once asked for**, a recording has begun. -/
theorem begun_after {traffic : Traffic P} (hnone : traffic.recording = none) (sample : Sample)
    (actions : List Action) :
    ((traffic.after [.record sample]).after actions).Begun traffic.recorded.length sample
      (actions.countP Action.isRecordStep) := by
  induction actions using List.reverseRecOn with
  | nil =>
    have hbegun : traffic.after [.record sample] =
        { traffic with recording := some (sample, .start) } := by
      simp [after, step?, hnone]
    rw [hbegun]
    exact .inl ⟨rfl, .start, rfl, rfl, Nat.le_refl _⟩
  | append_singleton actions action ih =>
    have hsteps : (actions ++ [action]).countP Action.isRecordStep =
        actions.countP Action.isRecordStep + action.isRecordStep.toNat := by
      rw [List.countP_append, List.countP_singleton]
      cases action.isRecordStep <;> rfl
    rw [after_concat, hsteps]
    cases hstep : ((traffic.after [.record sample]).after actions).step? action with
    | none => exact ih.putOff hstep
    | some traffic' => exact ih.step hstep

/-- How many times recordings have begun or returned. -/
def turns (traffic : Traffic P) : Nat :=
  2 * traffic.recorded.length + traffic.recording.isSome.toNat

/-- It never becomes less. -/
theorem turns_le_after (traffic : Traffic P) (actions : List Action) :
    traffic.turns ≤ (traffic.after actions).turns := by
  refine after_induction (motive := fun later => traffic.turns ≤ later.turns) (Nat.le_refl _)
    (fun rest action later hle hstep => Nat.le_trans hle ?_) actions
  rcases step?_cases hstep with ⟨sample, -, hnone, rfl⟩ | ⟨sample, recording, -, hsome, rfl⟩ |
    ⟨finish, -, rfl⟩ | ⟨i, now, call, phase, recorder, -, -, -, rfl⟩
  · simp [turns, hnone]
  · cases hnext : (recording.step sample (traffic.after rest).recorder).1.outcome? with
    | none =>
      obtain ⟨hunderWay, hrecorded⟩ := recordStep_of_outcome?_eq_none sample hnext
      simp [turns, hsome, hunderWay, hrecorded]
    | some outcome =>
      obtain ⟨hreturned, hrecorded⟩ := recordStep_of_outcome?_eq_some sample hnext
      simp only [turns, hsome, hreturned, hrecorded, List.length_append, List.length_singleton,
        Option.isSome_some, Option.isSome_none, Bool.toNat_true, Bool.toNat_false]
      omega
  · exact Nat.le_refl _
  · exact Nat.le_refl _

/-! ## Few locks, no drop -/

omit [ProfileStore P] in
/-- Three and two are five. -/
theorem FiveLockings.le_length {lockings : List (Nat × SlotId)} (h : FiveLockings lockings) :
    5 ≤ lockings.length := by
  have hcount : ∀ slots : List SlotId,
      slots.count .one + slots.count .two = slots.length := by
    intro slots
    induction slots with
    | nil => rfl
    | cons slot slots ih => cases slot <;> simp <;> omega
  have hslots := hcount (lockings.map Prod.snd)
  rw [List.length_map] at hslots
  have htwo := h.two
  have hone := h.one
  omega

/-- **What contests a recording happens while it is under way**: after it was asked
for and before it returns. -/
theorem Contested.during {start : Traffic P} {before during : List Action} {sample sample' : Sample}
    (h : start.Contested (before ++ .record sample :: during) (start.after before).recorded.length
      sample')
    (hnone : (start.after before).recording = none) :
    5 ≤ ((start.after (before ++ [.record sample])).lockings during).length := by
  obtain ⟨before', during', rest, hactions, hfirst, -, hfive⟩ := h
  -- the first try comes after the sample was given to be recorded
  have hlater : (start.after before).turns < (start.after before').turns := by
    have hnumber := hfirst.number
    simp only [turns, hnone, hfirst.recording, hnumber, Option.isSome_none, Option.isSome_some,
      Bool.toNat_false, Bool.toNat_true]
    omega
  rcases List.append_eq_append_iff.1 hactions with ⟨more, rfl, hmore⟩ | ⟨more, rfl, -⟩
  · cases more with
    | nil => cases hmore
    | cons action more =>
      rw [List.cons_append] at hmore
      obtain ⟨rfl, hduring⟩ := List.cons.inj hmore
      have hsame : (start.after (before ++ [.record sample])).after (more ++ [.recordStep]) =
          start.after (before ++ .record sample :: more ++ [.recordStep]) := by
        rw [← after_append]
        simp
      have hsplit : during = (more ++ [.recordStep]) ++ (during' ++ .recordStep :: rest) := by
        rw [hduring]
        simp
      rw [hsplit, lockings_append _ (more ++ _), hsame, lockings_append _ during',
        List.length_append, List.length_append]
      have := hfive.le_length
      omega
  · rw [after_append] at hlater
    have := turns_le_after (start.after before') more
    omega

/-- **A sample is recorded** if fewer than five flushes take the lock of their old
slot while it is, unless the recording has not made all its steps yet. -/
theorem recorded_of_few_lockings {enabled : EnabledMetrics} {now : Instant}
    {before during : List Action} {sample : Sample}
    (hnone : ((new enabled now : Traffic P).after before).recording = none)
    (hfew : (((new enabled now : Traffic P).after (before ++ [.record sample])).lockings
      during).length < 5) :
    ((new enabled now : Traffic P).after (before ++ .record sample :: during)).recorded[
        ((new enabled now : Traffic P).after before).recorded.length]? = some ⟨sample, .ok ()⟩ ∨
      (∃ recording, ((new enabled now : Traffic P).after
        (before ++ .record sample :: during)).recording = some (sample, recording)) ∧
        during.countP Action.isRecordStep < Recording.start.stepsLeft := by
  have hbegun := begun_after hnone sample during
  rw [← after_append, ← after_append, List.singleton_append] at hbegun
  rcases hbegun with ⟨-, recording, hrecording, hgoing, hleft⟩ | ⟨outcome, hreturned⟩
  · have hpos := Recording.stepsLeft_pos hgoing
    exact .inr ⟨⟨recording, hrecording⟩, by omega⟩
  · cases outcome with
    | ok => exact .inl hreturned
    | error error =>
      have hcontested := (explained_after enabled now _).refused _ _ _ hreturned
      have hfive := hcontested.during hnone
      omega

/-! ## Counting -/

/-- **Drops are counted**, in a word that starts over when it is full. -/
theorem dropped_after (enabled : EnabledMetrics) (now : Instant) (actions : List Action) :
    ((new enabled now : Traffic P).after actions).recorder.dropped =
      UInt64.ofNat
        (((new enabled now : Traffic P).after actions).recorded.countP Recorded.refused) := by
  refine after_induction
    (motive := fun traffic =>
      traffic.recorder.dropped = UInt64.ofNat (traffic.recorded.countP Recorded.refused))
    rfl (fun before action traffic' hcount hstep => ?_) actions
  have haccounted : ((new enabled now : Traffic P).after before).Accounted :=
    accounted_after enabled now before
  rcases step?_cases hstep with ⟨sample, -, -, rfl⟩ | ⟨sample, recording, -, hrecording, rfl⟩ |
    ⟨finish, -, rfl⟩ | ⟨i, now', call, phase, recorder, -, -, hphase, rfl⟩
  · exact hcount
  · have hgoing := haccounted.outcome?_eq_none sample recording hrecording
    show (recording.step sample _).2.dropped =
      UInt64.ofNat ((_ ++ Option.toList _).countP Recorded.refused)
    rw [Recording.dropped_step, hcount, List.countP_append,
      Recording.countP_refused_step sample _ hgoing, UInt64.ofNat_add]
  · exact hcount
  · exact (Flush.enabled_and_dropped_of_step? hphase).2.trans hcount

/-! ## Made anew after a fork -/

/-- What is measured stays as it was chosen. -/
theorem enabled_after (traffic : Traffic P) (actions : List Action) :
    (traffic.after actions).recorder.enabled = traffic.recorder.enabled := by
  refine after_induction
    (motive := fun later => later.recorder.enabled = traffic.recorder.enabled) rfl
    (fun before action later henabled hstep => ?_) actions
  rcases step?_cases hstep with ⟨sample, -, -, rfl⟩ | ⟨sample, recording, -, -, rfl⟩ |
    ⟨finish, -, rfl⟩ | ⟨i, now, call, phase, recorder, -, -, hphase, rfl⟩
  · exact henabled
  · exact (Recording.enabled_step ..).trans henabled
  · exact henabled
  · exact (Flush.enabled_and_dropped_of_step? hphase).1.trans henabled

/-- What can happen to a recorder of a process that may be forked. -/
inductive Event
  /-- A call of this process goes on. -/
  | action (action : Action)
  /-- The process goes on as its child, with no call under way, and makes the
  recorder anew. -/
  | resetAfterFork (now : Instant)

/-- A recorder made anew, before the first call on it. -/
def restarted (traffic : Traffic P) (now : Instant) : Traffic P where
  recorder := (traffic.recorder.resetAfterFork now).value
  recorded := []
  recording := none
  flushes := []
  held := fun _ => []
  returned := []

/-- What some events leave. -/
def afterEvents (traffic : Traffic P) (events : List Event) : Traffic P :=
  events.foldl (fun traffic event =>
    match event with
    | .action action => (traffic.step? action).getD traffic
    | .resetAfterFork now => traffic.restarted now) traffic

/-- When the recorder was made, or last made anew, and what has happened since. -/
def sinceLastReset (now : Instant) (events : List Event) : Instant × List Action :=
  events.foldl (fun period event =>
    match event with
    | .action action => (period.1, period.2 ++ [action])
    | .resetAfterFork now => (now, [])) (now, [])

/-- **What was before the last fork leaves no trace.** -/
theorem afterEvents_eq (enabled : EnabledMetrics) (now : Instant) (events : List Event) :
    (new enabled now : Traffic P).afterEvents events =
      (new enabled (sinceLastReset now events).1).after (sinceLastReset now events).2 := by
  induction events using List.reverseRecOn with
  | nil => rfl
  | append_singleton events event ih =>
    rw [afterEvents, sinceLastReset, List.foldl_concat, List.foldl_concat]
    rw [afterEvents, sinceLastReset] at ih
    rw [ih]
    cases event with
    | action action => exact (after_concat ..).symm
    | resetAfterFork now' =>
      simp only [restarted, Recorder.resetAfterFork, enabled_after]
      rfl

/-- **What becomes of samples that find no slot**, after some actions. -/
structure Accountable (start : Traffic P) (actions : List Action) : Prop where
  /-- A recording that returns without having recorded its sample has been contested. -/
  contested : ∀ number sample error,
    (start.after actions).recorded[number]? = some ⟨sample, .error error⟩ →
      start.Contested actions number sample
  /-- One during which fewer than five flushes take their lock has its sample
  recorded, once it has made its steps. -/
  recorded_of_few : ∀ before sample during, actions = before ++ .record sample :: during →
    (start.after before).recording = none →
    ((start.after (before ++ [.record sample])).lockings during).length < 5 →
      (start.after actions).recorded[(start.after before).recorded.length]? =
          some ⟨sample, .ok ()⟩ ∨
        (∃ recording, (start.after actions).recording = some (sample, recording)) ∧
          during.countP Action.isRecordStep < Recording.start.stepsLeft
  /-- The recorder says how many samples were dropped. -/
  dropped_eq : (start.after actions).recorder.dropped =
    UInt64.ofNat ((start.after actions).recorded.countP Recorded.refused)

/-- **Drops are explained and counted**: whatever happens to a recorder, each sample
dropped since it was made, or last made anew after a fork, was contested by five
flushes, none else is dropped, and their number is what the recorder says. -/
theorem drops_after (enabled : EnabledMetrics) (now : Instant) (events : List Event) :
    (new enabled now : Traffic P).afterEvents events =
        (new enabled (sinceLastReset now events).1).after (sinceLastReset now events).2 ∧
      (new enabled (sinceLastReset now events).1 : Traffic P).Accountable
        (sinceLastReset now events).2 := by
  refine ⟨afterEvents_eq enabled now events, ?_, ?_, ?_⟩
  · exact (explained_after enabled _ _).refused
  · intro before sample during hactions hnone hfew
    rw [hactions]
    exact recorded_of_few_lockings hnone hfew
  · exact dropped_after enabled _ _

end Traffic

end StackProfiler
