import StackProfiler.Proofs.Recorder.Contents
/-!
# Recorders — the way of a call

Where a call stands and what recorder it finds, step after step, while nobody
else uses the recorder (`Recording.visits`, `Flush.visits`). The stores change on
the way by the calls that are made on them and by nothing else (`stores_run`), so
these calls are all that a store is told. A flush that comes to its end can make
each of its steps at once (`Flush.goesOn_of_run`).
-/

namespace StackProfiler

variable {P : Type} [ProfileStore P]

/-- The stores after some calls, made in this order. -/
def storesAfterAll (stores : SlotId → P) (calls : List (SlotId × StoreCall)) : SlotId → P :=
  calls.foldl (fun stores call => Traffic.storesAfter stores (some call)) stores

/-! ## Recordings -/

namespace Recording

/-- The states in which a recording makes its steps, to its end. -/
def visits (sample : Sample) (recorder : Recorder P) (recording : Recording) :
    List (Recording × Recorder P) :=
  match h : recording.outcome? with
  | some _ => []
  | none =>
    let next := recording.step sample recorder
    have : next.1.stepsLeft < recording.stepsLeft := step_stepsLeft_lt h
    (recording, recorder) :: visits sample next.2 next.1
termination_by recording.stepsLeft

/-- A recording at its end visits nothing more. -/
@[simp]
theorem visits_done (sample : Sample) (recorder : Recorder P)
    (outcome : Except RecordError Unit) : visits sample recorder (.done outcome) = [] := by
  rw [visits]
  simp [outcome?]

/-- Any other makes a step and goes on from there. -/
theorem visits_of_outcome?_eq_none (sample : Sample) (recorder : Recorder P)
    {recording : Recording} (h : recording.outcome? = none) :
    visits sample recorder recording =
      (recording, recorder) ::
        visits sample (recording.step sample recorder).2 (recording.step sample recorder).1 := by
  rw [visits]
  split
  · next outcome => rw [outcome] at h; cases h
  · rfl

/-- The calls that a recording makes on the stores, to its end. -/
def storeCalls (sample : Sample) (recorder : Recorder P) (recording : Recording) :
    List (SlotId × StoreCall) :=
  (visits sample recorder recording).filterMap fun visit => visit.1.storeCall? sample

/-- **A recording changes the stores by its calls.** -/
theorem stores_run (sample : Sample) (recorder : Recorder P) (recording : Recording) :
    Traffic.stores (recording.run sample recorder).value.2 =
      storesAfterAll (Traffic.stores recorder) (recording.storeCalls sample recorder) := by
  cases h : recording.outcome? with
  | some outcome =>
    obtain rfl : recording = .done outcome := by
      cases recording with
      | done outcome' => rw [Option.some.inj h]
      | _ => cases h
    rw [run_done, storeCalls, visits_done]
    rfl
  | none =>
    have hlt : (recording.step sample recorder).1.stepsLeft < recording.stepsLeft :=
      step_stepsLeft_lt h
    -- the rest of the way, from the state after the first step
    have hrest := stores_run sample (recording.step sample recorder).2
      (recording.step sample recorder).1
    rw [Traffic.stores_recording] at hrest
    rw [run_of_outcome?_eq_none sample recorder h, storeCalls,
      visits_of_outcome?_eq_none sample recorder h, List.filterMap_cons]
    refine hrest.trans ?_
    cases recording.storeCall? sample <;> rfl
termination_by recording.stepsLeft

end Recording

/-! ## Flushes -/

namespace Flush

/-- The states in which a flush makes its steps, to its end or to where it waits. -/
def visits (finish now : Instant) (recorder : Recorder P) (flush : Flush P) :
    List (Flush P × Recorder P) :=
  match flush.result? with
  | some _ => []
  | none =>
    match h : flush.step? finish now recorder with
    | none => [(flush, recorder)]
    | some (next, recorder') =>
      have := step?_stepsLeft_lt h
      (flush, recorder) :: visits finish now recorder' next
termination_by flush.stepsLeft

/-- A flush at its end visits nothing more; any other makes a step, if it can,
and goes on from there. -/
theorem visits_eq (finish now : Instant) (recorder : Recorder P) (flush : Flush P) :
    visits finish now recorder flush =
      match flush.result? with
      | some _ => []
      | none => (flush, recorder) ::
          ((flush.step? finish now recorder).elim [] fun next =>
            visits finish now next.2 next.1) := by
  rw [visits]
  split
  · rfl
  · split <;> simp [*]

/-- The calls that a flush makes on the stores, to its end. -/
def storeCalls (finish now : Instant) (recorder : Recorder P) (flush : Flush P) :
    List (SlotId × StoreCall) :=
  (visits finish now recorder flush).filterMap fun visit => visit.1.storeCall?

/-- **A flush that comes to its end** made its first step, and came to its end
from there. -/
theorem exists_step_of_run {finish now : Instant} {recorder : Recorder P} {flush : Flush P}
    {finished : Logged (Flushed P × Recorder P)} (hlive : flush.result? = none)
    (h : flush.run finish now recorder = some finished) :
    ∃ next recorder' rest, flush.step? finish now recorder = some (next, recorder') ∧
      next.run finish now recorder' = some rest ∧ rest.value = finished.value := by
  rw [run_eq, hlive] at h
  obtain ⟨⟨next, recorder'⟩, hstep, hrest⟩ := Option.bind_eq_some_iff.1 h
  obtain ⟨rest, hrun, hfinished⟩ := Option.map_eq_some_iff.1 hrest
  exact ⟨next, recorder', rest, hstep, hrun, by rw [← hfinished]⟩

/-- **It waited nowhere on the way.** -/
theorem goesOn_of_run {finish now : Instant} {recorder : Recorder P} {flush : Flush P}
    {finished : Logged (Flushed P × Recorder P)}
    (h : flush.run finish now recorder = some finished) :
    ∀ visit ∈ flush.visits finish now recorder, (visit.1.step? finish now visit.2).isSome := by
  intro visit hvisit
  rw [visits_eq] at hvisit
  cases hlive : flush.result? with
  | some flushed =>
    rw [hlive] at hvisit
    cases hvisit
  | none =>
    obtain ⟨next, recorder', rest, hstep, hrun, -⟩ := exists_step_of_run hlive h
    have hlt := step?_stepsLeft_lt hstep
    rw [hlive, hstep] at hvisit
    rcases List.mem_cons.1 hvisit with rfl | hlater
    · rw [hstep]
      rfl
    · exact goesOn_of_run hrun visit hlater
termination_by flush.stepsLeft

/-- **And it changed the stores by its calls.** -/
theorem stores_run {finish now : Instant} {recorder : Recorder P} {flush : Flush P}
    {finished : Logged (Flushed P × Recorder P)}
    (h : flush.run finish now recorder = some finished) :
    Traffic.stores finished.value.2 =
      storesAfterAll (Traffic.stores recorder) (flush.storeCalls finish now recorder) := by
  rw [storeCalls, visits_eq]
  cases hlive : flush.result? with
  | some flushed =>
    rw [run_eq, hlive] at h
    rw [← Option.some.inj h]
    rfl
  | none =>
    obtain ⟨next, recorder', rest, hstep, hrun, hvalue⟩ := exists_step_of_run hlive h
    have hlt := step?_stepsLeft_lt hstep
    have hrest := stores_run hrun
    rw [Traffic.stores_flush hstep] at hrest
    rw [hstep, ← hvalue]
    refine hrest.trans ?_
    show _ = storesAfterAll _ (((flush, recorder) :: next.visits finish now recorder').filterMap _)
    rw [List.filterMap_cons]
    cases flush.storeCall? <;> rfl
termination_by flush.stepsLeft

end Flush

end StackProfiler
