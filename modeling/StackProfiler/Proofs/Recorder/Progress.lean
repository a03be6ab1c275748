import Mathlib.Algebra.Ring.Nat
import Mathlib.Data.List.Perm.Basic
import StackProfiler.Proofs.Recorder.Turns
/-!
# Recorders — nobody waits for ever

A flush that is inside waits for one recording at most, which has two steps left
in its slot. So as long as a call has not returned some call can make a step
(`Orderly.exists_step`), and every step brings all of them nearer to their ends
(`stepsLeft_lt`).
-/

namespace StackProfiler

namespace Traffic

variable {P : Type}

/-- Whether an action goes on with a call that has been made. -/
def Action.goesOn : Action → Bool
  | .record _ | .flush _ => false
  | .recordStep | .flushStep .. => true

/-- **All calls have returned.** -/
structure Finished (traffic : Traffic P) : Prop where
  recording : traffic.recording = none
  flushes : ∀ call ∈ traffic.flushes, call.phase.result?.isSome

/-- A bound on the steps of all the calls that have been made. -/
def stepsLeft (traffic : Traffic P) : Nat :=
  traffic.recording.elim 0 (fun recording => recording.2.stepsLeft + 1) +
    (traffic.flushes.map fun call => call.phase.stepsLeft).sum

variable [ProfileStore P]

/-! ## Every step counts -/

theorem stepsLeft_recordStep {traffic : Traffic P} {sample : Sample} {recording : Recording}
    (hrecording : traffic.recording = some (sample, recording)) :
    (traffic.recordStep sample recording).stepsLeft < traffic.stepsLeft := by
  rw [stepsLeft, stepsLeft, hrecording, recordStep]
  cases houtcome : (recording.step sample traffic.recorder).1.outcome? with
  | some outcome =>
    simp only [Option.elim]
    omega
  | none =>
    have hlive : recording.outcome? = none := by
      cases recording with
      | done outcome => exact houtcome
      | _ => rfl
    have hlt : (recording.step sample traffic.recorder).1.stepsLeft < recording.stepsLeft :=
      Recording.step_stepsLeft_lt hlive
    simp only [Option.elim]
    omega

theorem stepsLeft_flushStep {traffic : Traffic P} {i : Nat} {call : FlushCall P}
    (hcall : traffic.flushes[i]? = some call) {now : Instant} {phase : Flush P}
    {recorder : Recorder P}
    (hstep : call.phase.step? call.finish now traffic.recorder = some (phase, recorder)) :
    (traffic.flushStep i call phase recorder).stepsLeft < traffic.stepsLeft := by
  obtain ⟨hlt, hget⟩ := List.getElem?_eq_some_iff.1 hcall
  -- only the one flush changes, so all others count the same before and after
  have hbefore := ((List.getElem_cons_eraseIdx_perm hlt).map
    fun call : FlushCall P => call.phase.stepsLeft).sum_nat
  have hafter := ((List.set_perm_cons_eraseIdx hlt (call.stepped traffic.held phase)).map
    fun call : FlushCall P => call.phase.stepsLeft).sum_nat
  rw [hget] at hbefore
  have hphase := Flush.step?_stepsLeft_lt hstep
  simp only [List.map_cons, List.sum_cons, FlushCall.stepped] at hbefore hafter
  simp only [stepsLeft, flushStep, FlushCall.stepped]
  omega

/-- **Every step brings the calls nearer to their ends.** -/
theorem stepsLeft_lt {traffic traffic' : Traffic P} {action : Action}
    (hstep : traffic.step? action = some traffic') (hgoesOn : action.goesOn = true) :
    traffic'.stepsLeft < traffic.stepsLeft := by
  rcases step?_cases hstep with ⟨sample, rfl, -, -⟩ | ⟨sample, recording, -, hrecording, rfl⟩ |
    ⟨finish, rfl, -⟩ | ⟨i, now, call, phase, recorder, -, hcall, hphase, rfl⟩
  · cases hgoesOn
  · exact stepsLeft_recordStep hrecording
  · cases hgoesOn
  · exact stepsLeft_flushStep hcall hphase

/-! ## Somebody can make a step -/

theorem step?_recordStep {traffic : Traffic P} {sample : Sample} {recording : Recording}
    (hrecording : traffic.recording = some (sample, recording)) :
    traffic.step? .recordStep = some (traffic.recordStep sample recording) := by
  rw [step?, hrecording]
  rfl

theorem step?_flushStep {traffic : Traffic P} {i : Nat} {call : FlushCall P}
    (hcall : traffic.flushes[i]? = some call) (now : Instant) :
    traffic.step? (.flushStep i now) =
      (call.phase.step? call.finish now traffic.recorder).map fun next =>
        traffic.flushStep i call next.1 next.2 := by
  rw [step?, hcall, Option.bind_eq_bind, Option.bind_some]
  cases call.phase.step? call.finish now traffic.recorder <;> rfl

namespace Orderly

variable {traffic : Traffic P} (h : traffic.Orderly)
include h

/-- With no recording in a slot, a flush that is inside goes on. -/
theorem goesOn_of_holding {i : Nat} {call : FlushCall P}
    (hcall : traffic.flushes[i]? = some call) (hin : call.phase.inside = true)
    (hholding : traffic.holding = none) (now : Instant) :
    (traffic.step? (.flushStep i now)).isSome := by
  rw [step?_flushStep hcall, Option.isSome_map, Option.isSome_iff_ne_none, Ne,
    h.step?_eq_none_iff hcall]
  rintro (⟨hentering, -⟩ | ⟨old, now', -, hold⟩ | hdone)
  · rw [hentering] at hin
    cases hin
  · rw [hholding] at hold
    cases hold
  · rw [Flush.inside_of_result? hdone] at hin
    cases hin

/-- Once the recording has given its lock back, a flush that is inside goes on. -/
theorem goesOn_of_releasing {sample : Sample} {slot : SlotId}
    (hrecording : traffic.recording = some (sample, .releasing slot)) {i : Nat}
    {call : FlushCall P} (hcall : traffic.flushes[i]? = some call)
    (hin : call.phase.inside = true) (now : Instant) :
    ((traffic.recordStep sample (.releasing slot)).step? (.flushStep i now)).isSome :=
  (h.recordStep hrecording).goesOn_of_holding hcall hin rfl now

/-- **A flush that is inside waits for one recording at most**: it can go on at
once or after two more steps of the recording that is under way. -/
theorem goesOn_within_two {i : Nat} {call : FlushCall P} (hcall : traffic.flushes[i]? = some call)
    (hin : call.phase.inside = true) (now : Instant) :
    ∃ k ≤ 2, ((traffic.after (List.replicate k .recordStep)).step? (.flushStep i now)).isSome := by
  cases hholding : traffic.holding with
  | none => exact ⟨0, by omega, h.goesOn_of_holding hcall hin hholding now⟩
  | some slot =>
    obtain ⟨⟨sample, recording⟩, hrecording, hslot⟩ := Option.bind_eq_some_iff.1 hholding
    have hstep := step?_recordStep hrecording
    cases recording with
    | adding slot' =>
      -- it adds its sample and then gives the lock back
      have hadded : (traffic.recordStep sample (.adding slot')).recording =
          some (sample, .releasing slot') := rfl
      refine ⟨2, by omega, ?_⟩
      have hafter : traffic.after (List.replicate 2 .recordStep) =
          (traffic.recordStep sample (.adding slot')).recordStep sample (.releasing slot') := by
        show (((traffic.step? .recordStep).getD traffic).step? .recordStep).getD _ = _
        rw [hstep, Option.getD_some, step?_recordStep hadded, Option.getD_some]
      rw [hafter]
      exact (h.recordStep hrecording).goesOn_of_releasing hadded hcall hin now
    | releasing slot' =>
      refine ⟨1, by omega, ?_⟩
      have hafter : traffic.after (List.replicate 1 .recordStep) =
          traffic.recordStep sample (.releasing slot') := by
        show (traffic.step? .recordStep).getD traffic = _
        rw [hstep, Option.getD_some]
      rw [hafter]
      exact h.goesOn_of_releasing hrecording hcall hin now
    | _ => cases hslot

/-- **No deadlock**: as long as not all calls have returned, one can make a step. -/
theorem exists_step (now : Instant) : traffic.Finished ∨ (traffic.step? .recordStep).isSome ∨
    ∃ i, (traffic.step? (.flushStep i now)).isSome := by
  cases hrecording : traffic.recording with
  | some recording =>
    refine .inr (.inl ?_)
    rw [step?_recordStep hrecording]
    rfl
  | none =>
    have hholding : traffic.holding = none := by
      rw [holding, hrecording]
      rfl
    by_cases hwaiting : ∃ call ∈ traffic.flushes, ¬ call.phase.result?.isSome
    · obtain ⟨call, hmem, hresult⟩ := hwaiting
      refine .inr (.inr ?_)
      by_cases hinside : ∃ (j : Nat) (other : FlushCall P),
          traffic.flushes[j]? = some other ∧ other.phase.inside = true
      · obtain ⟨j, other, hother, hin⟩ := hinside
        exact ⟨j, h.goesOn_of_holding hother hin hholding now⟩
      · -- nobody is inside, so whoever has not returned may enter
        obtain ⟨i, hcall⟩ := List.mem_iff_getElem?.1 hmem
        refine ⟨i, ?_⟩
        rw [step?_flushStep hcall, Option.isSome_map, Option.isSome_iff_ne_none, Ne,
          h.step?_eq_none_iff hcall]
        rintro (⟨-, hother⟩ | ⟨old, now', -, hold⟩ | hdone)
        · exact hinside hother
        · rw [hholding] at hold
          cases hold
        · exact hresult hdone
    · refine .inl ⟨hrecording, fun call hmem => ?_⟩
      by_contra hresult
      exact hwaiting ⟨call, hmem, hresult⟩

end Orderly

end Traffic

end StackProfiler
