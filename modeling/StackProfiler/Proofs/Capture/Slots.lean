import StackProfiler.Proofs.Capture.Resolution
import StackProfiler.Proofs.Capture.Screening
/-!
# Captures — slots that are used again

All a collector keeps from capture to capture are slots, and all that later
captures need of them is how many there are: as many as the budget they were
made for, for raw frames and for frames alike (`Collector.Fits`). No source and
no history of captures changes that (`Collector.fits_after`).
-/

namespace StackProfiler

variable {T R : Type}

/-! ## As many slots as before -/

/-- There are `n` slots for raw frames and `n` for frames. -/
structure BufferView.HasSlots (view : BufferView R) (n : Nat) : Prop where
  raw : view.raw.length = n
  frames : view.frames.length = n

namespace BufferView.HasSlots

variable {view : BufferView R} {n : Nat}

theorem rest (h : view.HasSlots n) : view.rest.HasSlots (n - 1) :=
  ⟨by rw [BufferView.rest, List.length_drop, h.raw],
    by rw [BufferView.rest, List.length_drop, h.frames]⟩

theorem withFirst (h : view.HasSlots (n + 1)) (frame : Frame) {rest : BufferView R}
    (hrest : rest.HasSlots n) : (view.withFirst frame rest).HasSlots (n + 1) :=
  ⟨by rw [BufferView.withFirst, List.length_append, List.length_take, h.raw, hrest.raw]; omega,
    by rw [BufferView.withFirst, List.length_cons, hrest.frames]⟩

end BufferView.HasSlots

namespace Walked

variable {view : BufferView R} {n : Nat}

/-- What resolving leaves in the slots. -/
theorem view_resolve (source : FrameSource T R) (thread : T) (h : view.HasSlots n)
    (captured : Nat) (log : List LogRecord) :
    (resolve source thread view captured log).view =
      let frames := (Resolution.ofStack source (view.raw.take captured)).frames ++
        view.frames.drop captured
      ⟨view.raw, if captured = n ∧ n < (source.stackDepth thread).toNat then
          frames.set (n - 1) (Frame.omitted ((source.stackDepth thread).toNat - n + 1))
        else frames⟩ := by
  have hcapacity : view.capacity = n := h.frames
  unfold resolve
  dsimp only
  rw [hcapacity]
  by_cases hfull : captured = n <;> simp [hfull]

theorem hasSlots_resolve (source : FrameSource T R) (thread : T) (h : view.HasSlots n)
    {captured : Nat} (hle : captured ≤ n) (log : List LogRecord) :
    (resolve source thread view captured log).view.HasSlots n := by
  have hframes : ((Resolution.ofStack source (view.raw.take captured)).frames ++
      view.frames.drop captured).length = n := by
    rw [List.length_append, Resolution.length_frames_ofStack, List.length_take, List.length_drop,
      h.raw, h.frames]
    omega
  rw [view_resolve source thread h]
  refine ⟨h.raw, ?_⟩
  dsimp only
  split
  · rw [List.length_set, hframes]
  · exact hframes

@[simp]
theorem captured_resolve (source : FrameSource T R) (thread : T) (view : BufferView R)
    (captured : Nat) (log : List LogRecord) :
    (resolve source thread view captured log).captured = captured := by
  unfold resolve
  dsimp only
  split <;> rfl

/-- The frames that resolving leaves in the first slots. -/
theorem take_frames_resolve (source : FrameSource T R) (thread : T) {view : BufferView R} {m : Nat}
    (h : view.HasSlots m) {captured : Nat} (hle : captured ≤ m) (log : List LogRecord) :
    (resolve source thread view captured log).view.frames.take captured =
      let frames := (Resolution.ofStack source (view.raw.take captured)).frames
      if captured = m ∧ m < (source.stackDepth thread).toNat then
        frames.set (m - 1) (Frame.omitted ((source.stackDepth thread).toNat - m + 1))
      else frames := by
  have hlength : (Resolution.ofStack source (view.raw.take captured)).frames.length = captured := by
    rw [Resolution.length_frames_ofStack, List.length_take, h.raw]
    omega
  rw [view_resolve source thread h]
  dsimp only
  split
  next hfull =>
    have hdrop : view.frames.drop captured = [] :=
      List.drop_of_length_le (Nat.le_of_eq (h.frames.trans hfull.1.symm))
    rw [hdrop, List.append_nil]
    exact List.take_of_length_le (Nat.le_of_eq (by rw [List.length_set, hlength]))
  next => exact List.take_left' hlength

/-- **A walk changes what is in the slots and not how many there are**, whatever
the source reports and writes. -/
theorem hasSlots_into (source : FrameSource T R) (thread : T) (h : view.HasSlots n) :
    (into source thread view).view.HasSlots n := by
  have hwalk : (⟨(source.walk thread 0 view.raw).2, view.frames⟩ : BufferView R).HasSlots n :=
    ⟨by rw [source.walk_length, h.raw], h.frames⟩
  have hcapacity : BufferView.capacity ⟨(source.walk thread 0 view.raw).2, view.frames⟩ = n :=
    h.frames
  unfold into
  split
  · exact h
  dsimp only
  split
  · exact hasSlots_resolve source thread hwalk (hcapacity ▸ Nat.min_le_right ..) _
  · exact hasSlots_resolve source thread hwalk (hcapacity ▸ Nat.min_le_right ..) _
  · exact hwalk
  · exact ⟨hwalk.raw, by rw [List.length_set]; exact hwalk.frames⟩

/-- No more frames are in the slots than there are slots. -/
theorem captured_into_le (source : FrameSource T R) (thread : T) (h : view.HasSlots n) :
    (into source thread view).captured ≤ n := by
  have hcapacity : view.capacity = n := h.frames
  unfold into
  split
  · exact Nat.zero_le _
  dsimp only
  split
  · rw [captured_resolve]
    exact Nat.le_trans (Nat.min_le_right ..) (Nat.le_of_eq hcapacity)
  · rw [captured_resolve]
    exact Nat.le_trans (Nat.min_le_right ..) (Nat.le_of_eq hcapacity)
  · exact Nat.zero_le _
  · exact Nat.one_le_iff_ne_zero.2 (hcapacity ▸ ‹_›)

end Walked

/-! ## Collectors -/

namespace SamplingBuffer

/-- **Slots made for a budget**: as many as that, at least one and at most the
limit. -/
structure Fits (buffer : SamplingBuffer R) : Prop where
  pos : 0 < buffer.maxFrames
  le_limit : buffer.maxFrames ≤ maxFramesLimit
  hasSlots : buffer.view.HasSlots buffer.maxFrames

/-- New slots are as many as the budget. -/
theorem Fits.new [Inhabited R] {m : Nat} (hpos : 0 < m) {buffer : SamplingBuffer R}
    (h : SamplingBuffer.new m = .ok buffer) : buffer.Fits ∧ buffer.maxFrames = m := by
  rw [SamplingBuffer.new] at h
  split at h
  · cases h
  next hle =>
    cases h
    exact ⟨⟨hpos, Nat.le_of_not_lt hle, List.length_replicate, List.length_replicate⟩, rfl⟩

end SamplingBuffer

namespace Collector

/-- The slots of a collector, if it has any, are made for their budget. -/
def Fits (collector : Collector R) : Prop :=
  ∀ buffer ∈ collector.buffer, buffer.Fits

theorem fits_empty : (⟨none⟩ : Collector R).Fits := by
  intro buffer hbuffer
  cases hbuffer

/-- Filling the slots of a budget, during garbage collection or not. -/
theorem hasSlots_fill (source : FrameSource T R) (thread : T) (inGc : Bool) {view : BufferView R}
    {n : Nat} (hpos : 0 < n) (h : view.HasSlots n) :
    (fill source thread inGc view).view.HasSlots n := by
  obtain ⟨n, rfl⟩ : ∃ k, n = k + 1 := ⟨n - 1, by omega⟩
  cases inGc with
  | false => exact Walked.hasSlots_into source thread h
  | true => exact h.withFirst _ (Walked.hasSlots_into source thread h.rest)

theorem captured_fill_le (source : FrameSource T R) (thread : T) (inGc : Bool)
    {view : BufferView R} {n : Nat} (hpos : 0 < n) (h : view.HasSlots n) :
    (fill source thread inGc view).captured ≤ n := by
  cases inGc with
  | false => exact Walked.captured_into_le source thread h
  | true =>
    have hle := Walked.captured_into_le source thread h.rest
    change 1 + _ ≤ n
    omega

variable [Inhabited R] {collector : Collector R}

/-- Slots that are found for a budget fit, new ones and old. -/
theorem Fits.bufferFor (h : collector.Fits) {m : Nat} (hpos : 0 < m) {buffer : SamplingBuffer R}
    (hbuffer : collector.bufferFor m = .ok buffer) : buffer.Fits ∧ buffer.maxFrames = m := by
  unfold Collector.bufferFor at hbuffer
  split at hbuffer
  next old hold =>
    split at hbuffer
    next heq =>
      cases hbuffer
      exact ⟨h _ hold, heq⟩
    next => exact SamplingBuffer.Fits.new hpos hbuffer
  next => exact SamplingBuffer.Fits.new hpos hbuffer

/-- **A capture with a budget**, once the checks have passed: slots are found
and filled, and the sample is made of the frames in them. -/
theorem Fits.capture_eq (h : collector.Fits) (source : FrameSource T R)
    {request : CaptureRequest T} {m : Nat} (hpos : 0 < m)
    (hm : checkMaxFrames request.maxFrames = .ok m)
    (hlabels : Label.check request.labels = .ok ()) :
    ∃ buffer : SamplingBuffer R, buffer.Fits ∧ buffer.maxFrames = m ∧
      let walked := fill source request.thread request.inGc buffer.view
      collector.capture source request =
        ⟨.ok ⟨walked.view.frames.take walked.captured, request.labels, request.values⟩,
          walked.calls, walked.log, ⟨some { buffer with view := walked.view }⟩⟩ := by
  obtain ⟨buffer, hbuffer⟩ := collector.bufferFor_isOk (checkMaxFrames_eq_ok_iff.1 hm).2
  obtain ⟨hfits, hbudget⟩ := h.bufferFor hpos hbuffer
  refine ⟨buffer, hfits, hbudget, ?_⟩
  simp only [capture, hm, hlabels, if_neg (Nat.ne_of_gt hpos), hbuffer]

/-- **A capture leaves slots that fit**, whether it succeeds or not. -/
theorem Fits.capture (h : collector.Fits) (source : FrameSource T R) (request : CaptureRequest T) :
    (collector.capture source request).collector.Fits := by
  rcases collector.capture_cases source request with ⟨error, -, heq⟩ | ⟨-, -, heq⟩ |
    ⟨-, m, buffer, hpos, -, hbuffer, heq⟩
  · rwa [heq]
  · rwa [heq]
  · obtain ⟨hfits, -⟩ := h.bufferFor hpos hbuffer
    rw [heq]
    rintro _ ⟨⟩
    exact ⟨hfits.pos, hfits.le_limit, hasSlots_fill source _ _ hfits.pos hfits.hasSlots⟩

/-- A collector after captures, each from a source as it was then. -/
def after (history : List (FrameSource T R × CaptureRequest T)) : Collector R :=
  history.foldl (fun collector past => (collector.capture past.1 past.2).collector) ⟨none⟩

/-- **Slots fit after any history.** -/
theorem fits_after (history : List (FrameSource T R × CaptureRequest T)) :
    (after history).Fits := by
  suffices hfold : ∀ collector : Collector R, collector.Fits →
      (history.foldl (fun collector past => (collector.capture past.1 past.2).collector)
        collector).Fits from hfold _ fits_empty
  induction history with
  | nil => exact fun _ h => h
  | cons past history ih => exact fun collector h => ih _ (h.capture past.1 past.2)

end Collector

end StackProfiler
