import StackProfiler.Proofs.Capture.Slices
import StackProfiler.Proofs.Capture.Slots
/-!
# Captures — within bounds

A capture slot by slot makes no misstep, and it is the capture: from slices that
hold what slots hold (`BufferView.slices`), every step finds its slot and every
number stays in its word, whatever the source reports, writes or claims of the
depth. What carries this from capture to capture is that the slots fit
(`Collector.Fits`).
-/

namespace StackProfiler

variable {T R : Type}

/-- The same slots in four slices. -/
def BufferView.slices (view : BufferView R) : Slices R :=
  ⟨view.raw.map RawFrame.handle, view.raw.map RawFrame.line, view.raw.map RawFrame.isNative,
    view.frames⟩

namespace Slots

variable {α : Type}

theorem read_eq_ok {slots : List α} {i : Nat} {item : α} (h : slots[i]? = some item) :
    read slots i = .ok item := by
  rw [read, h]

theorem write_eq_ok {slots : List α} {i : Nat} (h : i < slots.length) (item : α) :
    write slots i item = .ok (slots.set i item) :=
  if_pos h

theorem part_eq_ok {slots : List α} {n : Nat} (h : n ≤ slots.length) :
    part slots n = .ok (slots.take n, slots.drop n) :=
  if_pos h

end Slots

theorem addCounts_eq_ok {a b : Nat} (h : a + b < 18446744073709551616) :
    addCounts a b = .ok (a + b) :=
  if_pos h

theorem subCounts_eq_ok {a b : Nat} (h : b ≤ a) : subCounts a b = .ok (a - b) :=
  if_pos h

namespace Slices

/-! ## Walking -/

@[simp]
theorem frames_slices (view : BufferView R) : view.slices.frames = view.frames := rfl

@[simp]
theorem capacity_slices (view : BufferView R) : view.slices.capacity = view.capacity := rfl

theorem hasSlots_slices {view : BufferView R} {n : Nat} (h : view.HasSlots n) :
    view.slices.HasSlots n where
  handles := (List.length_map _).trans h.raw
  lines := (List.length_map _).trans h.raw
  natives := (List.length_map _).trans h.raw
  frames := h.frames

@[simp]
theorem raw_slices (view : BufferView R) : view.slices.raw = view.raw := by
  simp [raw, BufferView.slices, List.zip_map', Function.comp_def]

/-- Three slices are walked as the slots are, since they are of one length. -/
theorem walk_slices (source : FrameSource T R) (thread : T) (view : BufferView R) :
    view.slices.walk source thread =
      .ok ((source.walk thread 0 view.raw).1,
        BufferView.slices ⟨(source.walk thread 0 view.raw).2, view.frames⟩) := by
  rw [walk, if_pos ⟨by simp [BufferView.slices], by simp [BufferView.slices]⟩, raw_slices]
  rfl

/-! ## Resolving -/

/-- What the slices tell of raw frame `i`. -/
theorem read_slices {raw : List (RawFrame R)} {i : Nat} {frame : RawFrame R}
    (h : raw[i]? = some frame) (frames : List Frame) :
    Slots.read (BufferView.slices ⟨raw, frames⟩).handles i = .ok frame.handle ∧
      Slots.read (BufferView.slices ⟨raw, frames⟩).lines i = .ok frame.line ∧
      Slots.read (BufferView.slices ⟨raw, frames⟩).natives i = .ok frame.isNative := by
  refine ⟨Slots.read_eq_ok ?_, Slots.read_eq_ok ?_, Slots.read_eq_ok ?_⟩ <;>
    simp [BufferView.slices, h]

/-- The place of a caller, if the slices have it at this index. -/
theorem place_slices (source : FrameSource T R) {raw : List (RawFrame R)} (frames : List Frame)
    {index : Option Nat} {caller : Option (RawFrame R)}
    (h : Option.Rel (fun i frame => raw[i]? = some frame) index caller) :
    (BufferView.slices ⟨raw, frames⟩).place source index =
      .ok ((caller.map fun caller => source.fileName caller.handle).getD "",
        (caller.map RawFrame.lineNumber).getD 0) := by
  cases h with
  | none => rfl
  | some h =>
    obtain ⟨hhandle, hline, -⟩ := read_slices h frames
    rw [place, hhandle, hline]
    rfl

/-- **One frame more.** With the index of the innermost managed frame so far at
hand, resolving frame `i` writes what the raw frame resolves to. -/
theorem resolveBelow_succ (source : FrameSource T R) {raw : List (RawFrame R)}
    {frames : List Frame} {i : Nat} {frame : RawFrame R} {index : Option Nat}
    {resolved : Resolution T R} (hframe : raw[i]? = some frame) (hi : i < frames.length)
    (hindex : Option.Rel (fun i frame => raw[i]? = some frame) index resolved.caller) :
    ∃ index' shown,
      Option.Rel (fun i frame => raw[i]? = some frame) index'
        (Resolution.add source frame resolved).caller ∧
      (Resolution.add source frame resolved).frames = shown :: resolved.frames ∧
      (BufferView.slices ⟨raw, frames⟩).resolveBelow source index (i + 1) =
        (BufferView.slices ⟨raw, frames.set i shown⟩).resolveBelow source index' i := by
  obtain ⟨hhandle, -, hnative⟩ := read_slices hframe frames
  have hindex' : Option.Rel (fun i frame => raw[i]? = some frame)
      (if frame.isNative then index else some i) (Resolution.add source frame resolved).caller := by
    rw [Resolution.caller_add]
    split
    · exact hindex
    · exact .some hframe
  refine ⟨_, _, hindex', Resolution.frames_add .., ?_⟩
  have hplace := place_slices source frames hindex'
  rw [resolveBelow, hhandle, hnative]
  simp only [bind, Except.bind, hplace]
  rw [Slots.write_eq_ok (by exact hi)]
  rfl

/-- **Resolving from an index down** writes what the raw frames below it resolve to
on top of what has been resolved. -/
theorem resolveBelow_slices (source : FrameSource T R) {raw : List (RawFrame R)}
    {frames rest : List Frame} {n : Nat} {index : Option Nat} {resolved : Resolution T R}
    (hraw : n ≤ raw.length) (hframes : n ≤ frames.length)
    (hrest : frames.drop n = resolved.frames ++ rest)
    (hindex : Option.Rel (fun i frame => raw[i]? = some frame) index resolved.caller) :
    (BufferView.slices ⟨raw, frames⟩).resolveBelow source index n =
      .ok (BufferView.slices
        ⟨raw, ((raw.take n).foldr (Resolution.add source) resolved).frames ++ rest⟩) := by
  -- What carries the induction is `hrest`: from the index on, the slots hold what has been resolved
  -- and behind it what they held before.
  induction n generalizing frames index resolved with
  | zero =>
    rw [List.drop_zero] at hrest
    rw [hrest]
    rfl
  | succ i ih =>
    have hframe : raw[i]? = some raw[i] := List.getElem?_eq_getElem hraw
    obtain ⟨index', shown, hindex', hshown, hstep⟩ :=
      resolveBelow_succ source hframe hframes hindex
    have hrest' : (frames.set i shown).drop i =
        (Resolution.add source raw[i] resolved).frames ++ rest := by
      rw [List.drop_eq_getElem_cons (by rw [List.length_set]; omega), List.getElem_set_self,
        List.drop_set_of_lt (by omega), hrest, hshown, List.cons_append]
    rw [hstep, ih (by omega) (by rw [List.length_set]; omega) hrest' hindex',
      List.take_succ_eq_append_getElem hraw, List.foldr_append]
    rfl

/-- **Resolving what has been walked.** The count of what is left out goes into a
slot that there is, and it fits into a word as the depth does. -/
theorem resolve_slices (source : FrameSource T R) (thread : T) {view : BufferView R}
    {n captured : Nat} (hpos : 0 < n) (h : view.HasSlots n) (hle : captured ≤ n)
    (log : List LogRecord) :
    view.slices.resolve source thread captured =
      .ok (Walked.resolve source thread view captured log).view.slices := by
  have hcapacity : view.slices.capacity = n := h.frames
  have hdepth := (source.stackDepth thread).toNat_lt
  have hbelow : view.slices.resolveBelow source none captured =
      .ok (BufferView.slices ⟨view.raw, (Resolution.ofStack source (view.raw.take captured)).frames ++
        view.frames.drop captured⟩) :=
    resolveBelow_slices source (h.raw ▸ hle) (h.frames ▸ hle) rfl .none
  have hlength : ((Resolution.ofStack source (view.raw.take captured)).frames ++
      view.frames.drop captured).length = n := by
    rw [List.length_append, Resolution.length_frames_ofStack, List.length_take,
      List.length_drop, h.raw, h.frames]
    omega
  rw [Walked.view_resolve source thread h, resolve, hcapacity]
  generalize (Resolution.ofStack source (view.raw.take captured)).frames ++
    view.frames.drop captured = frames at hbelow hlength ⊢
  simp only [bind, Except.bind, hbelow]
  split
  next hfull =>
    have hlast : subCounts n 1 = .ok (n - 1) := subCounts_eq_ok hpos
    have hbeyond : subCounts (source.stackDepth thread).toNat n =
        .ok ((source.stackDepth thread).toNat - n) := subCounts_eq_ok (by omega)
    have homitted : addCounts ((source.stackDepth thread).toNat - n) 1 =
        .ok ((source.stackDepth thread).toNat - n + 1) := addCounts_eq_ok (by omega)
    have hslot : n - 1 < frames.length := by omega
    simp only [hlast, hbeyond, homitted, frames_slices, Slots.write_eq_ok hslot]
    rfl
  next => rfl

/-- **Walking into slices** finds the slots it writes to, whatever is reported. -/
theorem walkInto_slices (source : FrameSource T R) (thread : T) {view : BufferView R} {n : Nat}
    (h : view.HasSlots n) :
    view.slices.walkInto source thread =
      .ok ((Walked.into source thread view).captured,
        (Walked.into source thread view).view.slices) := by
  have hwalked : (⟨(source.walk thread 0 view.raw).2, view.frames⟩ : BufferView R).HasSlots n :=
    ⟨by rw [source.walk_length, h.raw], h.frames⟩
  have hcapacity : view.capacity = n := h.frames
  have hcapacity' : BufferView.capacity ⟨(source.walk thread 0 view.raw).2, view.frames⟩ = n :=
    h.frames
  rw [walkInto, Walked.into, capacity_slices, hcapacity]
  split
  · rfl
  next hsome =>
  have hpos : 0 < n := Nat.pos_of_ne_zero hsome
  have hslot : 0 < view.frames.length := h.frames ▸ hpos
  rw [walk_slices]
  simp only [bind, Except.bind, pure, Except.pure, capacity_slices, frames_slices, hcapacity']
  cases (source.walk thread 0 view.raw).1 with
  | complete count =>
    dsimp only
    rw [resolve_slices source thread hpos hwalked (Nat.min_le_right ..), Walked.captured_resolve]
  | interrupted count =>
    dsimp only
    rw [resolve_slices source thread hpos hwalked (Nat.min_le_right ..), Walked.captured_resolve]
  | threadNotAlive => rfl
  | inNativeCode =>
    simp only [Slots.write_eq_ok hslot]
    rfl

/-- The first slots come off wherever there are any. -/
theorem splitFirst_slices {view : BufferView R} {n : Nat} (h : view.HasSlots (n + 1)) :
    view.slices.splitFirst =
      .ok (BufferView.slices ⟨view.raw.take 1, view.frames.take 1⟩, view.rest.slices) := by
  have hslots := hasSlots_slices h
  rw [splitFirst, Slots.part_eq_ok (hslots.frames ▸ Nat.le_add_left 1 n),
    Slots.part_eq_ok (hslots.handles ▸ Nat.le_add_left 1 n),
    Slots.part_eq_ok (hslots.lines ▸ Nat.le_add_left 1 n),
    Slots.part_eq_ok (hslots.natives ▸ Nat.le_add_left 1 n)]
  simp [bind, Except.bind, pure, Except.pure, BufferView.slices, BufferView.rest]

/-- **Filling slices**, during garbage collection or not. -/
theorem fill_slices (source : FrameSource T R) (thread : T) (inGc : Bool) {view : BufferView R}
    {n : Nat} (hpos : 0 < n) (hle : n ≤ maxFramesLimit) (h : view.HasSlots n) :
    view.slices.fill source thread inGc =
      .ok ((Collector.fill source thread inGc view).captured,
        (Collector.fill source thread inGc view).view.slices) := by
  have hlimit : maxFramesLimit = 10000 := rfl
  obtain ⟨n, rfl⟩ : ∃ k, n = k + 1 := ⟨n - 1, by omega⟩
  cases inGc with
  | false => exact walkInto_slices source thread h
  | true =>
    have hcaptured := Walked.captured_into_le source thread h.rest
    have hcount : addCounts 1 (Walked.into source thread view.rest).captured =
        .ok (1 + (Walked.into source thread view.rest).captured) := addCounts_eq_ok (by omega)
    have hslot : 0 < (view.frames.take 1).length := by
      rw [List.length_take, h.frames]
      omega
    rw [fill, if_pos rfl, splitFirst_slices h]
    simp only [bind, Except.bind, pure, Except.pure, frames_slices, Slots.write_eq_ok hslot,
      walkInto_slices source thread h.rest, hcount]
    have hfirst : (view.frames.take 1).set 0 .garbageCollection = [.garbageCollection] := by
      obtain ⟨frame, frames, hframes⟩ := List.exists_cons_of_length_pos (h.frames ▸ hpos)
      rw [hframes]
      rfl
    simp [Collector.fill, BufferView.withFirst, append, BufferView.slices, hfirst]

end Slices

/-! ## Capturing -/

/-- The same slots for a budget. -/
def SamplingBuffer.sliced (buffer : SamplingBuffer R) : SlicedBuffer R :=
  ⟨buffer.maxFrames, buffer.view.slices⟩

/-- The collector with its slots in slices. -/
def Collector.sliced (collector : Collector R) : SlicedCollector R :=
  ⟨collector.buffer.map SamplingBuffer.sliced⟩

namespace SlicedCollector

variable [Inhabited R]

theorem new_sliced (m : Nat) : (SlicedBuffer.new m : Except SampleError (SlicedBuffer R)) =
    (SamplingBuffer.new m).map SamplingBuffer.sliced := by
  rw [SlicedBuffer.new, SamplingBuffer.new]
  split
  · rfl
  · simp only [Except.map, SamplingBuffer.sliced, BufferView.slices, List.map_replicate]
    rfl

/-- The slices for a budget are the slots for it. -/
theorem bufferFor_sliced (collector : Collector R) (m : Nat) :
    collector.sliced.bufferFor m = (collector.bufferFor m).map SamplingBuffer.sliced := by
  obtain ⟨_ | buffer⟩ := collector
  · exact new_sliced m
  · change (if buffer.maxFrames = m then _ else _) =
      (if buffer.maxFrames = m then _ else _ : Except SampleError (SamplingBuffer R)).map _
    split
    · rfl
    · exact new_sliced m

/-- **A capture slot by slot is the capture**, and it makes no misstep. -/
theorem capture_sliced {collector : Collector R} (h : collector.Fits) (source : FrameSource T R)
    (request : CaptureRequest T) :
    collector.sliced.capture source request =
      .ok ((collector.capture source request).result,
        (collector.capture source request).collector.sliced) := by
  rw [capture, Collector.capture]
  cases hm : checkMaxFrames request.maxFrames with
  | error error => rfl
  | ok m =>
  dsimp only
  cases Label.check request.labels with
  | error error => rfl
  | ok checked =>
  dsimp only
  split
  · rfl
  next hsome =>
  obtain ⟨buffer, hbuffer⟩ :=
    collector.bufferFor_isOk (Collector.checkMaxFrames_eq_ok_iff.1 hm).2
  obtain ⟨hfits, rfl⟩ := h.bufferFor (Nat.pos_of_ne_zero hsome) hbuffer
  have hfill := Slices.fill_slices source request.thread request.inGc hfits.pos hfits.le_limit
    hfits.hasSlots
  have hfilled := Collector.hasSlots_fill source request.thread request.inGc hfits.pos
    hfits.hasSlots
  have hcaptured := Collector.captured_fill_le source request.thread request.inGc hfits.pos
    hfits.hasSlots
  rw [bufferFor_sliced, hbuffer]
  simp only [Except.map, SamplingBuffer.sliced, bind, Except.bind, hfill, Slices.frames_slices]
  rw [Slots.part_eq_ok (hfilled.frames ▸ hcaptured)]
  rfl

/-- **Captures one after the other** make no misstep either. -/
theorem after_eq (history : List (FrameSource T R × CaptureRequest T)) :
    after history = .ok (Collector.after history).sliced := by
  suffices hfold : ∀ collector : Collector R, collector.Fits →
      history.foldlM (fun collector past => do return (← capture collector past.1 past.2).2)
        collector.sliced =
      Except.ok (history.foldl (fun collector past => (collector.capture past.1 past.2).collector)
        collector).sliced from hfold _ Collector.fits_empty
  induction history with
  | nil => exact fun _ _ => rfl
  | cons past history ih =>
    intro collector h
    rw [List.foldlM_cons, capture_sliced h]
    exact ih _ (h.capture past.1 past.2)

end SlicedCollector

/-! ## Budgets -/

/-- The budget of a capture that passes the checks, unless it is zero. -/
def CaptureRequest.budget? (request : CaptureRequest T) : Option Nat :=
  match screen request.maxFrames request.labels with
  | .ok () => if request.maxFrames = 0 then none else some request.maxFrames.toInt.toNat
  | .error _ => none

/-- A capture has a budget if the number asked for is above zero and within the
limit and its labels may stand on one sample. -/
theorem CaptureRequest.budget?_eq_some_iff {request : CaptureRequest T} {m : Nat} :
    request.budget? = some m ↔
      request.maxFrames.toInt = m ∧ 1 ≤ m ∧ m ≤ 10000 ∧ Label.Valid request.labels := by
  have hzero : request.maxFrames = 0 ↔ request.maxFrames.toInt = 0 := Int64.toInt_inj.symm
  rw [budget?]
  cases hscreen : screen request.maxFrames request.labels with
  | error error =>
    refine iff_of_false (by simp) ?_
    rintro ⟨htoInt, -, hle, hlabels⟩
    rw [screen_eq_ok_iff.2 ⟨⟨by omega, by omega⟩, hlabels⟩] at hscreen
    cases hscreen
  | ok checked =>
    obtain ⟨⟨hnonneg, hle⟩, hlabels⟩ := screen_eq_ok_iff.1 hscreen
    dsimp only
    split
    next h =>
      rw [hzero] at h
      simp only [reduceCtorEq, false_iff]
      omega
    next h =>
      rw [hzero] at h
      simp only [Option.some.injEq, hlabels, and_true]
      omega

/-- The budget of the last capture that had one. -/
def lastBudget (history : List (FrameSource T R × CaptureRequest T)) : Option Nat :=
  (history.filterMap fun past => past.2.budget?).getLast?

namespace Collector

variable [Inhabited R]

/-- A capture with a budget leaves slots for that, and any other leaves those there
were. -/
theorem Fits.maxFrames_capture {collector : Collector R} (h : collector.Fits)
    (source : FrameSource T R) (request : CaptureRequest T) :
    (collector.capture source request).collector.buffer.map SamplingBuffer.maxFrames =
      request.budget?.or (collector.buffer.map SamplingBuffer.maxFrames) := by
  rcases collector.capture_cases source request with ⟨error, hscreen, heq⟩ |
    ⟨hscreen, hzero, heq⟩ | ⟨hscreen, m, buffer, hpos, hm, hbuffer, heq⟩
  · simp [CaptureRequest.budget?, hscreen, heq]
  · rw [CaptureRequest.budget?, hscreen, heq]
    simp [hzero]
  · obtain ⟨htoInt, hle⟩ := checkMaxFrames_eq_ok_iff.1 hm
    have hbudget : request.budget? = some m := CaptureRequest.budget?_eq_some_iff.2
      ⟨htoInt, hpos, hle, (screen_eq_ok_iff.1 hscreen).2⟩
    rw [hbudget, heq, Option.some_or, Option.map_some, (h.bufferFor hpos hbuffer).2]

/-- **The slots are for the last budget.** -/
theorem maxFrames_after (history : List (FrameSource T R × CaptureRequest T)) :
    (after history).buffer.map SamplingBuffer.maxFrames = lastBudget history := by
  suffices hfold : ∀ collector : Collector R, collector.Fits →
      (history.foldl (fun collector past => (collector.capture past.1 past.2).collector)
        collector).buffer.map SamplingBuffer.maxFrames =
      (lastBudget history).or (collector.buffer.map SamplingBuffer.maxFrames) by
    have h := hfold _ fits_empty
    rwa [Option.map_none, Option.or_none] at h
  induction history with
  | nil => exact fun _ _ => rfl
  | cons past history ih =>
    intro collector h
    rw [List.foldl_cons, ih _ (h.capture past.1 past.2), h.maxFrames_capture, ← Option.or_assoc]
    congr 1
    rw [lastBudget, lastBudget, List.filterMap_cons]
    cases past.2.budget? with
    | none => simp
    | some m => simp [List.getLast?_cons]

/-- **A sample has no more frames than its budget**, but for the one that says that
it was taken during garbage collection. -/
theorem Fits.length_frames {collector : Collector R} (h : collector.Fits)
    (source : FrameSource T R) {request : CaptureRequest T} {sample : Sample}
    (hsample : (collector.capture source request).result = .ok sample) :
    if request.maxFrames = 0 ∧ request.inGc = true then sample.frames.length = 1
    else (sample.frames.length : Int) ≤ request.maxFrames.toInt := by
  rcases collector.capture_cases source request with ⟨error, -, heq⟩ | ⟨-, hzero, heq⟩ |
    ⟨-, m, buffer, hpos, hm, hbuffer, heq⟩
  · rw [heq] at hsample
    cases hsample
  · rw [heq] at hsample
    cases hsample
    cases request.inGc <;> simp [hzero]
  · obtain ⟨hfits, rfl⟩ := h.bufferFor hpos hbuffer
    obtain ⟨htoInt, -⟩ := checkMaxFrames_eq_ok_iff.1 hm
    have hcaptured := captured_fill_le source request.thread request.inGc hfits.pos hfits.hasSlots
    have hsome : request.maxFrames ≠ 0 := by
      intro hzero
      rw [hzero, Int64.toInt_zero] at htoInt
      omega
    rw [heq] at hsample
    cases hsample
    rw [if_neg fun h => hsome h.1, List.length_take]
    omega

end Collector

/-! ## Within bounds -/

/-- **A capture after others that stays within bounds**, made by a collector with
slices. -/
structure SlicedCollector.StaysInBounds [Inhabited R] (collector : SlicedCollector R)
    (history : List (FrameSource T R × CaptureRequest T)) (source : FrameSource T R)
    (request : CaptureRequest T) : Prop where
  /-- There are slices if some capture has had a budget, and for the last of these. -/
  budget_eq : collector.buffer.map SlicedBuffer.maxFrames = lastBudget history
  /-- All four are as long as the budget. -/
  hasSlots : ∀ buffer ∈ collector.buffer,
    1 ≤ buffer.maxFrames ∧ buffer.maxFrames ≤ 10000 ∧ buffer.slices.HasSlots buffer.maxFrames
  /-- The capture makes no misstep, and it is the capture that is made with slots. -/
  capture_eq : let captured := (Collector.after history).capture source request
    collector.capture source request = .ok (captured.result, captured.collector.sliced)
  /-- It has no more frames than its budget, but for that of garbage collection. -/
  length_frames : ∀ sample,
    ((Collector.after history).capture source request).result = .ok sample →
    if request.maxFrames = 0 ∧ request.inGc = true then sample.frames.length = 1
    else (sample.frames.length : Int) ≤ request.maxFrames.toInt

/-- **No capture reaches beyond its slots.** Captures slot by slot, of any threads
and from any sources, whatever these report, write or claim of depths, make no
misstep one after the other, and neither does one more. -/
theorem SlicedCollector.after_staysInBounds [Inhabited R]
    (history : List (FrameSource T R × CaptureRequest T)) (source : FrameSource T R)
    (request : CaptureRequest T) :
    ∃ collector, after history = .ok collector ∧
      collector.StaysInBounds history source request := by
  have hfits := Collector.fits_after history
  refine ⟨_, after_eq history, ?_, ?_, capture_sliced hfits source request,
    fun _ => hfits.length_frames source⟩
  · rw [← Collector.maxFrames_after, Collector.sliced, Option.map_map]
    rfl
  · intro buffer hbuffer
    obtain ⟨slots, hslots, rfl⟩ := Option.map_eq_some_iff.1 hbuffer
    have h := hfits slots hslots
    exact ⟨h.pos, h.le_limit, Slices.hasSlots_slices h.hasSlots⟩

end StackProfiler
