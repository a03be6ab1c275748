import StackProfiler.Proofs.Capture.Stack
/-!
# Captures — during garbage collection

Garbage collection takes the first slot for a frame of its own, and the walk has
the others. So nothing can push that frame out, and what follows it is what a
budget smaller by one would capture (`capture_inGc`), down to the number of frames
that are left out.
-/

namespace StackProfiler

namespace Collector

variable {T R : Type} [Inhabited R]

/-- **Garbage collection costs one frame of the budget and changes nothing else.**
Whatever the two collectors have captured before, a capture during garbage
collection with budget `m` shows the frame that says so and then the frames of a
capture outside garbage collection with budget `m - 1`, which are none for `m ≤ 1`. -/
theorem capture_inGc (history history' : List (FrameSource T R × CaptureRequest T))
    {source : FrameSource T R} (promise : source.KeepsPromise) (thread : T) {m : Nat}
    (hle : m ≤ 10000) (values values' : MetricValues) {labels labels' : List Label}
    (valid : Label.Valid labels) (valid' : Label.Valid labels') :
    ∃ frames,
      ((after history).capture source ⟨thread, Int64.ofNat m, true, values, labels⟩).result =
        .ok ⟨⟨"", "Garbage Collection", 0, false⟩ :: frames, labels, values⟩ ∧
      ((after history').capture source
          ⟨thread, Int64.ofNat (m - 1), false, values', labels'⟩).result =
        .ok ⟨frames, labels', values'⟩ ∧
      (m ≤ 1 → frames = []) ∧ (2 ≤ m → Depicts source thread (m - 1) frames) := by
  have repeats := promise.repeats thread
  refine ⟨source.shown thread (m - 1), ?_, ?_, fun hm => ?_, fun hm => ?_⟩
  · exact result_capture_after history repeats hle true values valid
  · exact result_capture_after history' repeats (by omega) false values' valid'
  · rw [FrameSource.shown, if_pos (by omega)]
  · exact depicts_shown source thread (by omega)

/-- A thread whose native frame is called from the last frame that a budget of
four leaves room for during garbage collection. -/
def calledFromTheLast : Script :=
  .setThread ⟨#[], []⟩
    [⟨"step", "app", 4, false⟩, ⟨"each", "core", 0, true⟩, ⟨"loop", "app", 7, false⟩,
      ⟨"main", "app", 9, false⟩]
    { id := 1, stack := [] }

/-- The frame of garbage collection stays, the native frame keeps its place, and of
four frames two are left out. -/
theorem capture_inGc_calledFromTheLast :
    calledFromTheLast.source.KeepsPromise ∧ Label.Valid [.num "id" 1] ∧ Label.Valid [] ∧
      ((after usedBefore).capture calledFromTheLast.source
          ⟨1, 4, true, {}, [.num "id" 1]⟩).result =
        .ok ⟨⟨"", "Garbage Collection", 0, false⟩ :: [⟨"step", "app", 4, false⟩,
          ⟨"each", "app", 7, true⟩, ⟨"", "2 frames omitted", 0, false⟩], [.num "id" 1], {}⟩ ∧
      Depicts calledFromTheLast.source 1 3 [⟨"step", "app", 4, false⟩,
        ⟨"each", "app", 7, true⟩, ⟨"", "2 frames omitted", 0, false⟩] := by
  have promise : calledFromTheLast.source.KeepsPromise :=
    calledFromTheLast.keepsPromise_source (by decide)
  have valid : Label.Valid [.num "id" 1] := ⟨by decide, by decide⟩
  obtain ⟨frames, hgc, hplain, -, hdepicts⟩ := capture_inGc usedBefore (usedBefore.take 1)
    promise 1 (m := 4) (by decide) {} {} valid Label.valid_nil
  have heval : ((after (usedBefore.take 1)).capture calledFromTheLast.source
      ⟨1, 3, false, {}, []⟩).result = .ok ⟨[⟨"step", "app", 4, false⟩, ⟨"each", "app", 7, true⟩,
        ⟨"", "2 frames omitted", 0, false⟩], [], {}⟩ := by
    rfl
  have hframes := hplain.symm.trans heval
  simp only [Except.ok.injEq, Sample.mk.injEq, and_true] at hframes
  subst hframes
  exact ⟨promise, valid, Label.valid_nil, hgc, hdepicts (by decide)⟩

end Collector

end StackProfiler
