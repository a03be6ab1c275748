import StackProfiler.Capture.Scripted
import StackProfiler.Proofs.Capture.Slots
import StackProfiler.Proofs.Label
/-!
# Captures — the frames of a stack

A source keeps its promise if a walk writes what it reports, and both depend on
nothing but the thread, the start and the number of slots (`KeepsPromise`). The
raw frames of a stack are then what a walk writes, into any slots. A capture
outside garbage collection shows just these, each as it is resolved, and the last
one gives way to a count of what is left out if the stack is deeper than the
budget (`Depicts`); what was captured before does not matter.
-/

namespace StackProfiler

variable {T R : Type}

/-! ## Sources that keep their promise -/

/-- The number of frames that a walk reports to have written. -/
def Walk.reported : Walk → Nat
  | .complete count | .interrupted count => count.toNat
  | .threadNotAlive | .inNativeCode => 0

namespace FrameSource

/-- **What a source promises of its walks**: from the same start and into as many
slots, a walk of a thread reports the same, and the frames that it reports, as
far as there are slots, are the same; so it has written them all. -/
def KeepsPromise (source : FrameSource T R) : Prop :=
  ∀ thread start (slots slots' : List (RawFrame R)), slots.length = slots'.length →
    let written := source.walk thread start slots
    let written' := source.walk thread start slots'
    written.1 = written'.1 ∧
      written.2.take written.1.reported = written'.2.take written.1.reported

/-- **The walks of one thread repeat themselves**: from the top and into as many
slots they report the same, and what they report they write the same. -/
def Repeats (source : FrameSource T R) (thread : T) : Prop :=
  ∀ slots slots' : List (RawFrame R), slots.length = slots'.length →
    let written := source.walk thread 0 slots
    let written' := source.walk thread 0 slots'
    written.1 = written'.1 ∧
      written.2.take written.1.reported = written'.2.take written.1.reported

/-- A source that keeps its promise repeats itself on every thread. -/
theorem KeepsPromise.repeats {source : FrameSource T R} (promise : source.KeepsPromise)
    (thread : T) : source.Repeats thread :=
  promise thread 0

variable [Inhabited R]

/-- What a walk into `n` slots reports. -/
def report (source : FrameSource T R) (thread : T) (n : Nat) : Walk :=
  (source.walk thread 0 (List.replicate n default)).1

/-- The raw frames that a walk into `n` slots writes. -/
def stack (source : FrameSource T R) (thread : T) (n : Nat) : List (RawFrame R) :=
  (source.walk thread 0 (List.replicate n default)).2.take (source.report thread n).reported

/-- There are as many raw frames as reported, up to the number of slots. -/
theorem length_stack (source : FrameSource T R) (thread : T) (n : Nat) :
    (source.stack thread n).length = min (source.report thread n).reported n := by
  rw [stack, List.length_take, source.walk_length, List.length_replicate]

variable {source : FrameSource T R} {thread : T} (repeats : source.Repeats thread)
include repeats

/-- A walk reports the same whatever stands in the slots. -/
theorem Repeats.walk_fst (slots : List (RawFrame R)) :
    (source.walk thread 0 slots).1 = source.report thread slots.length :=
  (repeats slots _ List.length_replicate.symm).1

/-- And it writes the same. -/
theorem Repeats.take_walk_snd (slots : List (RawFrame R)) :
    (source.walk thread 0 slots).2.take (source.report thread slots.length).reported =
      source.stack thread slots.length := by
  have hlength : slots.length = (List.replicate slots.length (default : RawFrame R)).length :=
    List.length_replicate.symm
  have hwritten := (repeats slots _ hlength).2
  rwa [repeats.walk_fst] at hwritten

end FrameSource

/-! ## What a capture shows -/

variable [Inhabited R]

/-- **The frames of a walked thread**, captured with budget `m`: one for each raw
frame, but the last of `m` frames says how many it stands for if the stack is
deeper than that. -/
structure ShowsStack (source : FrameSource T R) (thread : T) (m : Nat) (frames : List Frame) :
    Prop where
  length_eq : frames.length = min (source.report thread m).reported m
  shows : ∀ i raw, (source.stack thread m)[i]? = some raw →
    (frames.length = m ∧ m < (source.stackDepth thread).toNat → i ≠ m - 1) →
    ∃ frame, frames[i]? = some frame ∧
      Resolution.Shows source (source.stack thread m) i raw frame
  omitted : frames.length = m → m < (source.stackDepth thread).toNat →
    frames[m - 1]? =
      some ⟨"", s!"{(source.stackDepth thread).toNat - m + 1} frames omitted", 0, false⟩

/-- **What a capture with budget `m` shows of a thread**, by what a walk of it
reports. -/
def Depicts (source : FrameSource T R) (thread : T) (m : Nat) (frames : List Frame) : Prop :=
  match source.report thread m with
  | .threadNotAlive => frames = []
  | .inNativeCode => frames = [⟨"", "In native code", 0, false⟩]
  | .complete _ | .interrupted _ => ShowsStack source thread m frames

/-- **The frames that a capture with budget `m` takes of a thread.** -/
def FrameSource.shown (source : FrameSource T R) (thread : T) (m : Nat) : List Frame :=
  if m = 0 then []
  else
    match source.report thread m with
    | .threadNotAlive => []
    | .inNativeCode => [.inNativeCode]
    | .complete _ | .interrupted _ =>
      let frames := (Resolution.ofStack source (source.stack thread m)).frames
      if (source.stack thread m).length = m ∧ m < (source.stackDepth thread).toNat then
        frames.set (m - 1) (Frame.omitted ((source.stackDepth thread).toNat - m + 1))
      else frames

/-- **The resolved frames of a stack show it**, once the last has given way to
what is left out. -/
theorem showsStack_ofStack (source : FrameSource T R) (thread : T) {m : Nat} (hpos : 0 < m) :
    let stack := source.stack thread m
    let frames := (Resolution.ofStack source stack).frames
    ShowsStack source thread m
      (if stack.length = m ∧ m < (source.stackDepth thread).toNat then
        frames.set (m - 1) (Frame.omitted ((source.stackDepth thread).toNat - m + 1))
      else frames) := by
  have hlength := source.length_stack thread m
  dsimp only
  by_cases homitted : (source.stack thread m).length = m ∧ m < (source.stackDepth thread).toNat
  · rw [if_pos homitted]
    refine ⟨?_, fun i raw hraw hshown => ⟨_, ?_, Resolution.shows_frameOf source _ i raw⟩,
      fun _ _ => ?_⟩
    · rw [List.length_set, Resolution.length_frames_ofStack, hlength]
    · rw [List.length_set, Resolution.length_frames_ofStack] at hshown
      rw [List.getElem?_set_ne (Ne.symm (hshown homitted)), Resolution.getElem?_frames_ofStack,
        hraw]
      rfl
    · rw [List.getElem?_set_self (by rw [Resolution.length_frames_ofStack, homitted.1]; omega)]
      rfl
  · rw [if_neg homitted]
    refine ⟨?_, fun i raw hraw _ => ⟨_, ?_, Resolution.shows_frameOf source _ i raw⟩,
      fun hfull hdeep => absurd ⟨?_, hdeep⟩ homitted⟩
    · rw [Resolution.length_frames_ofStack, hlength]
    · rw [Resolution.getElem?_frames_ofStack, hraw]
      rfl
    · rwa [Resolution.length_frames_ofStack] at hfull

/-- **The frames that are taken of a thread depict it.** -/
theorem depicts_shown (source : FrameSource T R) (thread : T) {m : Nat} (hpos : 0 < m) :
    Depicts source thread m (source.shown thread m) := by
  have hshows := showsStack_ofStack source thread hpos
  unfold Depicts FrameSource.shown
  rw [if_neg (Nat.ne_of_gt hpos)]
  split
  · rfl
  · rfl
  · exact hshows
  · exact hshows

namespace Walked

variable {source : FrameSource T R} {thread : T} {view : BufferView R} {m : Nat}

/-- **A walk that repeats itself takes the same frames into any slots**: it matters
how many there are and not what is in them. -/
theorem take_frames_into (repeats : source.Repeats thread) (h : view.HasSlots m) :
    (into source thread view).view.frames.take (into source thread view).captured =
      source.shown thread m := by
  have hcapacity : view.capacity = m := h.frames
  rcases Nat.eq_zero_or_pos m with rfl | hpos
  · rw [into, if_pos hcapacity, FrameSource.shown, if_pos rfl]
    exact List.take_zero
  have hreport : (source.walk thread 0 view.raw).1 = source.report thread m :=
    h.raw ▸ repeats.walk_fst view.raw
  have hwritten : (source.walk thread 0 view.raw).2.take (source.report thread m).reported =
      source.stack thread m :=
    h.raw ▸ repeats.take_walk_snd view.raw
  have hslots : (⟨(source.walk thread 0 view.raw).2, view.frames⟩ : BufferView R).HasSlots m :=
    ⟨by rw [source.walk_length, h.raw], h.frames⟩
  have hcapacity' : BufferView.capacity ⟨(source.walk thread 0 view.raw).2, view.frames⟩ = m :=
    h.frames
  have hstack : (source.walk thread 0 view.raw).2.take
      (min (source.report thread m).reported m) = source.stack thread m := by
    rw [← hwritten, ← hslots.raw, ← List.take_eq_take_min]
  have hlength := source.length_stack thread m
  unfold into FrameSource.shown
  rw [if_neg (by omega), if_neg (by omega)]
  dsimp only
  rw [hreport, hcapacity']
  -- what has been resolved is the stack, however the walk came to its end
  generalize source.report thread m = report at hstack hlength
  cases report with
  | complete count =>
    rw [captured_resolve, take_frames_resolve source thread hslots (Nat.min_le_right ..)]
    simp only [Walk.reported] at hstack hlength
    simp only [hstack, hlength]
  | interrupted count =>
    rw [captured_resolve, take_frames_resolve source thread hslots (Nat.min_le_right ..)]
    simp only [Walk.reported] at hstack hlength
    simp only [hstack, hlength]
  | threadNotAlive => rfl
  | inNativeCode =>
    obtain ⟨frame, frames, hframes⟩ := List.exists_cons_of_length_pos (h.frames ▸ hpos)
    simp [hframes]

/-- **A walk into any slots depicts the thread**, if the source keeps its
promise. -/
theorem depicts_into (promise : source.KeepsPromise) (hpos : 0 < m) (h : view.HasSlots m) :
    Depicts source thread m
      ((into source thread view).view.frames.take (into source thread view).captured) := by
  rw [take_frames_into (promise.repeats thread) h]
  exact depicts_shown source thread hpos

end Walked

/-! ## Captures -/

namespace Script

/-- The frames that a walk writes stand in the first slots. -/
theorem take_overwrite {frames slots : List (RawFrame Nat)} (hle : frames.length ≤ slots.length)
    {n : Nat} (hn : n ≤ frames.length) : (overwrite frames slots).take n = frames.take n := by
  rw [overwrite, List.take_of_length_le hle, List.take_append_of_le_length hn]

/-- No walk writes more frames than there are slots. -/
theorem length_written_le (script : Script) (id start slots : Nat) :
    (script.written id start slots).2.length ≤ slots := by
  unfold written
  split
  · exact Nat.zero_le _
  · dsimp only
    split <;> simp only [List.length_nil, List.length_map, List.length_take] <;> omega

/-- A thread that reports what it writes reports no more than that. -/
theorem reported_written_le (script : Script)
    (honest : ∀ thread ∈ script.threads, thread.report = none) (id start slots : Nat) :
    (script.written id start slots).1.reported ≤ (script.written id start slots).2.length := by
  have hcount : ∀ n : Nat, (UInt64.ofNat n).toNat ≤ n := fun n => by
    rw [UInt64.toNat_ofNat']
    exact Nat.mod_le ..
  unfold written
  split
  · exact Nat.zero_le _
  next thread hthread =>
    simp only [honest thread (List.mem_of_find?_eq_some hthread), Option.getD_none]
    split
    · exact Nat.zero_le _
    · exact Nat.zero_le _
    · exact hcount _
    · dsimp only
      split <;> exact hcount _

/-- **A script whose threads report what they write** keeps its promise. -/
theorem keepsPromise_source (script : Script)
    (honest : ∀ thread ∈ script.threads, thread.report = none) : script.source.KeepsPromise := by
  intro id start slots slots' hlength
  have hwalk : ∀ slots : List (RawFrame Nat), script.source.walk id start slots =
      ((script.written id start slots.length).1,
        overwrite (script.written id start slots.length).2 slots) := fun _ => rfl
  have hle := script.length_written_le id start slots.length
  have hreported := script.reported_written_le honest id start slots.length
  rw [hwalk, hwalk, ← hlength]
  refine ⟨rfl, ?_⟩
  rw [take_overwrite hle hreported, take_overwrite (hlength ▸ hle) hreported]

end Script

namespace Collector

/-- **What is captured of a thread whose walks repeat themselves**, whatever has
been captured before: the frames that the budget takes of it or, during garbage
collection, a frame that says so and those that the budget less one takes. -/
theorem result_capture_after (history : List (FrameSource T R × CaptureRequest T))
    {source : FrameSource T R} {thread : T} (repeats : source.Repeats thread) {m : Nat}
    (hle : m ≤ 10000) (inGc : Bool) (values : MetricValues) {labels : List Label}
    (valid : Label.Valid labels) :
    ((after history).capture source ⟨thread, Int64.ofNat m, inGc, values, labels⟩).result = .ok
      ⟨if inGc then .garbageCollection :: source.shown thread (m - 1)
        else source.shown thread m, labels, values⟩ := by
  let request : CaptureRequest T := ⟨thread, Int64.ofNat m, inGc, values, labels⟩
  have hm : checkMaxFrames request.maxFrames = .ok m := checkMaxFrames_ofNat hle
  have hcheck : Label.check request.labels = .ok () := Label.check_eq_ok_iff.2 valid
  rcases Nat.eq_zero_or_pos m with rfl | hpos
  · change ((after history).capture source request).result = _
    simp only [capture, hm, hcheck, if_true, FrameSource.shown]
    rfl
  obtain ⟨buffer, hfits, rfl, heq⟩ := (fits_after history).capture_eq source hpos hm hcheck
  rw [heq, fill]
  cases inGc with
  | false => simp [request, Walked.take_frames_into repeats hfits.hasSlots]
  | true =>
    have hrest := Walked.take_frames_into repeats hfits.hasSlots.rest
    simp [request, BufferView.withFirst, Nat.add_comm 1, hrest]

/-- **A capture depicts its thread.** Whatever has been captured before, by this
collector and from any sources, a capture outside garbage collection with a
budget of at least one and with valid labels succeeds; the sample has the given
labels and values, and its frames are those of the thread as the source, which
keeps its promise, gives it now. -/
theorem capture_depicts (history : List (FrameSource T R × CaptureRequest T))
    {source : FrameSource T R} (promise : source.KeepsPromise) (thread : T) {m : Nat}
    (hpos : 1 ≤ m) (hle : m ≤ 10000) (values : MetricValues) {labels : List Label}
    (valid : Label.Valid labels) :
    ∃ frames, ((after history).capture source
        ⟨thread, Int64.ofNat m, false, values, labels⟩).result = .ok ⟨frames, labels, values⟩ ∧
      Depicts source thread m frames := by
  let request : CaptureRequest T := ⟨thread, Int64.ofNat m, false, values, labels⟩
  have hm : checkMaxFrames request.maxFrames = .ok m :=
    checkMaxFrames_eq_ok_iff.2 ⟨Int64.toInt_ofNat_of_lt (by omega), hle⟩
  have hcheck : Label.check request.labels = .ok () := Label.check_eq_ok_iff.2 valid
  obtain ⟨buffer, hfits, rfl, heq⟩ := (fits_after history).capture_eq source hpos hm hcheck
  rw [heq]
  exact ⟨_, rfl, Walked.depicts_into promise hpos hfits.hasSlots⟩

/-- A thread with native code on top of two managed frames. -/
def nativeOnTop : Script :=
  .setThread ⟨#[], []⟩
    [⟨"read", "libc", 0, true⟩, ⟨"load", "app", -3, false⟩, ⟨"main", "app", 9, false⟩]
    { id := 1, stack := [] }

/-- Captures in which the slots have been used for another budget, and one that
was refused. -/
def usedBefore : List (FrameSource Nat Nat × CaptureRequest Nat) :=
  [(nativeOnTop.source, ⟨1, 3, true, {}, []⟩), (nativeOnTop.source, ⟨1, 2, true, {}, []⟩),
    (nativeOnTop.source, ⟨1, -1, false, {}, []⟩)]

/-- The native frame has the place of the managed one that gives way to the
count. -/
theorem capture_nativeOnTop :
    nativeOnTop.source.KeepsPromise ∧ Label.Valid [.str "k" "v"] ∧
      Depicts nativeOnTop.source 1 2
        [⟨"read", "app", 0, true⟩, ⟨"", "2 frames omitted", 0, false⟩] := by
  have promise : nativeOnTop.source.KeepsPromise := nativeOnTop.keepsPromise_source (by decide)
  have valid : Label.Valid [.str "k" "v"] := ⟨by decide, by decide⟩
  refine ⟨promise, valid, ?_⟩
  obtain ⟨frames, hresult, hdepicts⟩ :=
    capture_depicts usedBefore promise 1 (m := 2) (by decide) (by decide) {} valid
  have heval : ((after usedBefore).capture nativeOnTop.source
      ⟨1, 2, false, {}, [.str "k" "v"]⟩).result = .ok ⟨[⟨"read", "app", 0, true⟩,
        ⟨"", "2 frames omitted", 0, false⟩], [.str "k" "v"], {}⟩ := by
    rfl
  have hframes := hresult.symm.trans heval
  simp only [Except.ok.injEq, Sample.mk.injEq, and_true] at hframes
  exact hframes ▸ hdepicts

end Collector

end StackProfiler
