import StackProfiler.Proofs.Capture.Stack
/-!
# Captures — one stack under two budgets

A budget decides how much of a stack is kept. A managed frame is shown the same
under every budget that keeps it, but a native frame has its place from a caller,
and a capture looks no further for one than its budget reaches. Where the nearest
managed caller is beyond that, the frame is shown without a place, and a larger
budget may show it with one (`capture_alike_iff`).
-/

namespace StackProfiler

variable {T R : Type}

/-! ## Sources that give a whole stack -/

/-- **A source that gives the stack of a thread**, as much of it as there are slots,
and knows how deep it is. -/
structure FrameSource.Gives (source : FrameSource T R) (thread : T) (stack : List (RawFrame R)) :
    Prop where
  walk_fst : ∀ slots, (source.walk thread 0 slots).1 =
    .complete (UInt64.ofNat (min stack.length slots.length))
  take_walk_snd : ∀ slots,
    (source.walk thread 0 slots).2.take stack.length = stack.take slots.length
  depth_eq : (source.stackDepth thread).toNat = stack.length

namespace FrameSource.Gives

variable {source : FrameSource T R} {thread : T} {stack : List (RawFrame R)}
variable (h : source.Gives thread stack)
include h

/-- What is reported is what fits. -/
theorem reported_eq (slots : List (RawFrame R)) :
    (source.walk thread 0 slots).1.reported = min stack.length slots.length := by
  have hlt : stack.length < 2 ^ 64 := h.depth_eq ▸ (source.stackDepth thread).toNat_lt
  rw [h.walk_fst, Walk.reported, UInt64.toNat_ofNat', Nat.mod_eq_of_lt (by omega)]

/-- The frames that are reported are those on top of the stack. -/
theorem take_reported (slots : List (RawFrame R)) :
    (source.walk thread 0 slots).2.take (source.walk thread 0 slots).1.reported =
      stack.take slots.length := by
  rw [h.reported_eq, Nat.min_comm, ← List.take_take, h.take_walk_snd, List.take_take,
    Nat.min_self]

theorem repeats : source.Repeats thread := by
  intro slots slots' hlength
  dsimp only
  refine ⟨by rw [h.walk_fst, h.walk_fst, hlength], ?_⟩
  have hreported : (source.walk thread 0 slots).1.reported =
      (source.walk thread 0 slots').1.reported := by
    rw [h.reported_eq, h.reported_eq, hlength]
  rw [h.take_reported, hreported, h.take_reported, hlength]

variable [Inhabited R]

theorem stack_eq (n : Nat) : source.stack thread n = stack.take n := by
  rw [FrameSource.stack, report, h.take_reported, List.length_replicate]

/-- **What a budget takes of the stack**, the last frame giving way if there are
more. -/
theorem shown_eq {m : Nat} (hpos : 0 < m) :
    source.shown thread m =
      let frames := (Resolution.ofStack source (stack.take m)).frames
      if m < stack.length then frames.set (m - 1) (Frame.omitted (stack.length - m + 1))
      else frames := by
  have hfull : (stack.take m).length = m ∧ m < stack.length ↔ m < stack.length := by
    rw [List.length_take]
    omega
  rw [shown, if_neg (Nat.ne_of_gt hpos), report, h.walk_fst]
  simp only [h.stack_eq, h.depth_eq, hfull]

/-- A frame before the last is resolved by its callers within the budget. -/
theorem getElem?_shown {m i : Nat} (hi : i < m - 1) :
    (source.shown thread m)[i]? =
      stack[i]?.map fun raw => Resolution.frameOf source raw ((stack.take m).drop (i + 1)) := by
  rw [h.shown_eq (by omega)]
  dsimp only
  split
  · rw [List.getElem?_set_ne (by omega), Resolution.getElem?_frames_ofStack,
      List.getElem?_take_of_lt (by omega)]
  · rw [Resolution.getElem?_frames_ofStack, List.getElem?_take_of_lt (by omega)]

end FrameSource.Gives

/-! ## Callers within a budget and beyond -/

/-- A raw frame is shown at line zero if it has no line. -/
theorem RawFrame.lineNumber_eq_zero_iff (raw : RawFrame R) :
    raw.lineNumber = 0 ↔ raw.line.toInt ≤ 0 := by
  rw [← UInt32.toNat_inj, raw.toNat_lineNumber]
  exact Int.toNat_eq_zero

namespace Resolution

/-- **The place of frame `i` is within the first `m` frames**: it is managed, or one
of its callers there is. -/
def PlacedWithin (stack : List (RawFrame R)) (m i : Nat) (raw : RawFrame R) : Prop :=
  raw.isNative = true →
    ∃ j caller, i < j ∧ j < m ∧ stack[j]? = some caller ∧ caller.isNative = false

/-- The callers of frame `i` within the first `m` frames. -/
theorem mem_drop_take_iff {stack : List (RawFrame R)} {m i : Nat} {caller : RawFrame R} :
    caller ∈ (stack.take m).drop (i + 1) ↔ ∃ j, i < j ∧ j < m ∧ stack[j]? = some caller := by
  rw [List.mem_iff_getElem?]
  simp only [List.getElem?_drop, List.getElem?_take]
  constructor
  · rintro ⟨n, hn⟩
    split at hn
    · exact ⟨i + 1 + n, by omega, by omega, hn⟩
    · cases hn
  · rintro ⟨j, hij, hjm, hj⟩
    refine ⟨j - (i + 1), ?_⟩
    rw [show i + 1 + (j - (i + 1)) = j by omega, if_pos hjm, hj]

theorem placedWithin_iff {stack : List (RawFrame R)} {m i : Nat} {raw : RawFrame R} :
    PlacedWithin stack m i raw ↔ (raw.isNative = true →
      ∃ caller ∈ (stack.take m).drop (i + 1), caller.isNative = false) := by
  refine imp_congr_right fun _ => ⟨?_, ?_⟩
  · rintro ⟨j, caller, hij, hjm, hj, hmanaged⟩
    exact ⟨caller, mem_drop_take_iff.2 ⟨j, hij, hjm, hj⟩, hmanaged⟩
  · rintro ⟨caller, hmem, hmanaged⟩
    obtain ⟨j, hij, hjm, hj⟩ := mem_drop_take_iff.1 hmem
    exact ⟨j, caller, hij, hjm, hj, hmanaged⟩

/-- All callers of a frame are those within the first `m` frames and those beyond. -/
theorem drop_eq_append {stack : List (RawFrame R)} {m i : Nat} {raw : RawFrame R} (him : i < m)
    (hraw : stack[i]? = some raw) :
    stack.drop (i + 1) = (stack.take m).drop (i + 1) ++ stack.drop m := by
  obtain ⟨hlt, -⟩ := List.getElem?_eq_some_iff.1 hraw
  have happend : (stack.take m ++ stack.drop m).drop (i + 1) =
      (stack.take m).drop (i + 1) ++ stack.drop m :=
    List.drop_append_of_le_length (by rw [List.length_take]; omega)
  rwa [List.take_append_drop] at happend

/-- A native frame with no managed caller has no place. -/
theorem frameOf_of_natives (source : FrameSource T R) {raw : RawFrame R}
    {callers : List (RawFrame R)} (hnative : raw.isNative = true)
    (hcallers : ∀ caller ∈ callers, caller.isNative = true) :
    frameOf source raw callers = ⟨source.functionName raw.handle, "", 0, true⟩ := by
  have hfind : callers.find? (fun caller => !caller.isNative) = none :=
    List.find?_eq_none.2 fun caller hmem => by simp [hcallers caller hmem]
  simp [frameOf, site, hnative, hfind]

/-- **What callers further out change.** Nothing, if the frame has its place
already; else they give it one, and that shows unless it says nothing. -/
theorem frameOf_append_eq_iff (source : FrameSource T R) (raw : RawFrame R)
    (near far : List (RawFrame R)) :
    frameOf source raw near = frameOf source raw (near ++ far) ↔
      (raw.isNative = true → ∃ caller ∈ near, caller.isNative = false) ∨
        ∀ caller, far.find? (fun caller => !caller.isNative) = some caller →
          source.fileName caller.handle = "" ∧ caller.line.toInt ≤ 0 := by
  cases hnative : raw.isNative with
  | false => simp [frameOf, site, hnative]
  | true =>
  cases hnear : near.find? (fun caller => !caller.isNative) with
  | some caller =>
    have hplaced : ∃ caller ∈ near, caller.isNative = false :=
      ⟨caller, List.mem_of_find?_eq_some hnear, by simpa using List.find?_some hnear⟩
    simp [frameOf, site, hnative, List.find?_append, hnear, hplaced]
  | none =>
    have hnatives : ∀ caller ∈ near, caller.isNative = true := by
      simpa [List.find?_eq_none] using hnear
    have hunplaced : ¬ ∃ caller ∈ near, caller.isNative = false := by
      rintro ⟨caller, hmem, hmanaged⟩
      simp [hnatives caller hmem] at hmanaged
    rw [frameOf_of_natives source hnative hnatives]
    cases hfar : far.find? (fun caller => !caller.isNative) with
    | none => simp [frameOf, site, hnative, List.find?_append, hnear, hfar]
    | some caller =>
      have hline : 0 = caller.lineNumber ↔ caller.line.toInt ≤ 0 :=
        eq_comm.trans caller.lineNumber_eq_zero_iff
      simp [frameOf, site, hnative, List.find?_append, hnear, hfar, hunplaced, hline]

/-- **Frame `i` of a stack, captured with budgets `m < M`** as one of `frames` and
one of `frames'`. -/
structure Compares (source : FrameSource T R) (stack : List (RawFrame R)) (m M i : Nat)
    (raw : RawFrame R) (frames frames' : List Frame) : Prop where
  /-- It is shown alike just if the smaller budget reaches its place, or what the
  larger one reaches says nothing of a place. -/
  alike_iff : frames[i]? = frames'[i]? ↔ PlacedWithin stack m i raw ∨
    ∀ caller, ((stack.take M).drop m).find? (fun caller => !caller.isNative) = some caller →
      source.fileName caller.handle = "" ∧ caller.line.toInt ≤ 0
  /-- Where its place is reached, it is shown as the whole stack has it. -/
  shows : PlacedWithin stack m i raw →
    ∃ frame, frames[i]? = some frame ∧ Shows source stack i raw frame
  /-- Where it is not, the smaller budget shows it without one. -/
  unplaced : ¬ PlacedWithin stack m i raw →
    frames[i]? = some ⟨source.functionName raw.handle, "", 0, true⟩

/-- Frames that are resolved within two budgets compare so. -/
theorem compares (source : FrameSource T R) {stack : List (RawFrame R)} {m M i : Nat}
    {raw : RawFrame R} {frames frames' : List Frame} (him : i < m) (hmM : m < M)
    (hraw : stack[i]? = some raw)
    (hframes : frames[i]? = some (frameOf source raw ((stack.take m).drop (i + 1))))
    (hframes' : frames'[i]? = some (frameOf source raw ((stack.take M).drop (i + 1)))) :
    Compares source stack m M i raw frames frames' where
  alike_iff := by
    have hraw' : (stack.take M)[i]? = some raw := by
      rw [List.getElem?_take_of_lt (by omega), hraw]
    rw [hframes, hframes', Option.some_inj, drop_eq_append him hraw', List.take_take,
      Nat.min_eq_left (Nat.le_of_lt hmM), placedWithin_iff]
    exact frameOf_append_eq_iff ..
  shows := by
    intro hplaced
    refine ⟨_, hframes, ?_⟩
    rw [(frameOf_append_eq_iff source raw _ (stack.drop m)).2 (.inl (placedWithin_iff.1 hplaced)),
      ← drop_eq_append him hraw]
    exact shows_frameOf source stack i raw
  unplaced := by
    intro hunplaced
    simp only [placedWithin_iff, Classical.not_imp, not_exists, not_and, Bool.not_eq_false]
      at hunplaced
    rw [hframes, frameOf_of_natives source hunplaced.1 hunplaced.2]

end Resolution

/-! ## Two captures -/

/-- A script gives the stack of a thread that runs and says of itself what is so. -/
theorem Script.gives_source {script : Script} {id : Nat} {thread : ScriptedThread}
    (hthread : script.thread? id = some thread) (halive : thread.state = .alive)
    (hdepth : thread.depth = none) (hreport : thread.report = none)
    (hlt : thread.stack.length < UInt64.size) :
    script.source.Gives id (thread.stack.map script.raw) where
  walk_fst slots := by
    simp [source, written, hthread, halive, hreport, Nat.min_comm]
  take_walk_snd slots := by
    have hwalk : (script.source.walk id 0 slots).2 =
        overwrite ((thread.stack.map script.raw).take slots.length) slots := by
      simp [source, written, hthread, halive, List.map_take, List.take_take]
    rw [hwalk, overwrite, List.take_take, Nat.min_self]
    rcases Nat.le_total thread.stack.length slots.length with hle | hle
    · have hall : (thread.stack.map script.raw).take slots.length = thread.stack.map script.raw :=
        List.take_of_length_le (by simpa using hle)
      rw [hall, List.take_left' rfl]
    · rw [List.length_take, List.length_map, Nat.min_eq_left hle, List.drop_length,
        List.append_nil, List.take_of_length_le]
      rw [List.length_take, List.length_map]
      exact Nat.min_le_right ..
  depth_eq := by
    simp [source, hthread, halive, hdepth, UInt64.toNat_ofNat_of_lt' hlt]

namespace Collector

variable [Inhabited R]

/-- **When a smaller budget shows a kept frame as a larger one does.** Two captures
of one stack, with budgets `m < M` and whatever has been captured before, show a
frame before the last of the smaller one alike just if its nearest managed caller is
among the first `m` frames, or there is nothing to be told of the caller that only
`M` reaches. -/
theorem capture_alike_iff (history history' : List (FrameSource T R × CaptureRequest T))
    {source : FrameSource T R} {thread : T} {stack : List (RawFrame R)}
    (gives : source.Gives thread stack) {m M : Nat} (hpos : 1 ≤ m) (hlt : m < M)
    (hle : M ≤ 10000) (values values' : MetricValues) {labels labels' : List Label}
    (valid : Label.Valid labels) (valid' : Label.Valid labels') :
    ∃ frames frames',
      ((after history).capture source ⟨thread, Int64.ofNat m, false, values, labels⟩).result =
        .ok ⟨frames, labels, values⟩ ∧
      ((after history').capture source ⟨thread, Int64.ofNat M, false, values', labels'⟩).result =
        .ok ⟨frames', labels', values'⟩ ∧
      ∀ i raw, i < m - 1 → stack[i]? = some raw →
        Resolution.Compares source stack m M i raw frames frames' := by
  refine ⟨source.shown thread m, source.shown thread M, ?_, ?_, fun i raw hi hraw => ?_⟩
  · exact result_capture_after history gives.repeats (by omega) false values valid
  · exact result_capture_after history' gives.repeats hle false values' valid'
  · refine Resolution.compares source (by omega) hlt hraw ?_ ?_
    · rw [gives.getElem?_shown hi, hraw, Option.map_some]
    · rw [gives.getElem?_shown (by omega), hraw, Option.map_some]

/-- A thread with two native frames on top of two managed ones. -/
def nativesOnTop : Script :=
  .setThread ⟨#[], []⟩
    [⟨"read", "io", 5, true⟩, ⟨"call", "lib", 6, true⟩, ⟨"load", "app", 7, false⟩,
      ⟨"main", "app", 9, false⟩]
    { id := 1, stack := [] }

/-- Its raw frames. -/
def nativesOnTopStack : List (RawFrame Nat) :=
  [⟨0, 5, true⟩, ⟨1, 6, true⟩, ⟨2, 7, false⟩, ⟨3, 9, false⟩]

theorem gives_nativesOnTop : nativesOnTop.source.Gives 1 nativesOnTopStack := by
  have hthread : nativesOnTop.thread? 1 = some { id := 1, stack := [0, 1, 2, 3] } := rfl
  exact Script.gives_source hthread rfl rfl rfl (by decide)

/-- Under budgets of three and four, the frame on top has its place from the third,
though the smaller budget does not keep that. -/
theorem capture_alike_nativesOnTop :
    nativesOnTop.source.Gives 1 nativesOnTopStack ∧ Label.Valid [] ∧
      ((after usedBefore).capture nativesOnTop.source ⟨1, 3, false, {}, []⟩).result =
        .ok ⟨[⟨"read", "app", 7, true⟩, ⟨"call", "app", 7, true⟩,
          ⟨"", "2 frames omitted", 0, false⟩], [], {}⟩ ∧
      Resolution.Compares nativesOnTop.source nativesOnTopStack 3 4 0 ⟨0, 5, true⟩
        [⟨"read", "app", 7, true⟩, ⟨"call", "app", 7, true⟩, ⟨"", "2 frames omitted", 0, false⟩]
        [⟨"read", "app", 7, true⟩, ⟨"call", "app", 7, true⟩, ⟨"load", "app", 7, false⟩,
          ⟨"main", "app", 9, false⟩] := by
  obtain ⟨frames, frames', hframes, hframes', hcompares⟩ :=
    capture_alike_iff usedBefore (usedBefore.take 1) gives_nativesOnTop (m := 3) (M := 4)
      (by decide) (by decide) (by decide) {} {} Label.valid_nil Label.valid_nil
  have heval : ((after usedBefore).capture nativesOnTop.source ⟨1, 3, false, {}, []⟩).result =
      .ok ⟨[⟨"read", "app", 7, true⟩, ⟨"call", "app", 7, true⟩,
        ⟨"", "2 frames omitted", 0, false⟩], [], {}⟩ := by
    rfl
  have heval' : ((after (usedBefore.take 1)).capture nativesOnTop.source
      ⟨1, 4, false, {}, []⟩).result = .ok ⟨[⟨"read", "app", 7, true⟩, ⟨"call", "app", 7, true⟩,
        ⟨"load", "app", 7, false⟩, ⟨"main", "app", 9, false⟩], [], {}⟩ := by
    rfl
  have hfew := hframes.symm.trans heval
  have hmany := hframes'.symm.trans heval'
  simp only [Except.ok.injEq, Sample.mk.injEq, and_true] at hfew hmany
  subst hfew hmany
  exact ⟨gives_nativesOnTop, Label.valid_nil, heval, hcompares 0 _ (by decide) rfl⟩

/-- **A budget may change how a kept frame is shown.** Under a budget of two the
frame on top, which is kept, has no place, and under one of three it has that of
its nearest managed caller. -/
theorem capture_differs_nativesOnTop :
    nativesOnTop.source.Gives 1 nativesOnTopStack ∧ ∃ frames frames',
      (({} : Collector Nat).capture nativesOnTop.source ⟨1, 2, false, {}, []⟩).result =
        .ok ⟨frames, [], {}⟩ ∧
      (({} : Collector Nat).capture nativesOnTop.source ⟨1, 3, false, {}, []⟩).result =
        .ok ⟨frames', [], {}⟩ ∧
      frames[0]? = some ⟨"read", "", 0, true⟩ ∧ frames'[0]? = some ⟨"read", "app", 7, true⟩ :=
  ⟨gives_nativesOnTop,
    [⟨"read", "", 0, true⟩, ⟨"", "3 frames omitted", 0, false⟩],
    [⟨"read", "app", 7, true⟩, ⟨"call", "app", 7, true⟩, ⟨"", "2 frames omitted", 0, false⟩],
    rfl, rfl, rfl, rfl⟩

end Collector

end StackProfiler
