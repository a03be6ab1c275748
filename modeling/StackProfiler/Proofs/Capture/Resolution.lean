import StackProfiler.Capture.Resolution
/-!
# Captures — what a raw frame becomes

Resolving goes from the outermost frame inwards, but what a raw frame becomes
can be said of the stack as it stands: its own name, and the file and line of
the frame itself or, if it is native, of the first managed frame among its
callers (`Shows`).
-/

namespace StackProfiler

variable {T R : Type}

/-- The line of a raw frame is its line number, or zero if that is negative. -/
theorem RawFrame.toNat_lineNumber (raw : RawFrame R) :
    raw.lineNumber.toNat = raw.line.toInt.toNat := by
  have hzero : (0 : Int32).toInt = 0 := rfl
  rw [lineNumber]
  split
  next hneg =>
    rw [Int32.lt_iff_toInt_lt, hzero] at hneg
    exact (Int.toNat_of_nonpos (Int.le_of_lt hneg)).symm
  next hneg =>
    rw [Int32.lt_iff_toInt_lt, hzero] at hneg
    have hlt := raw.line.toBitVec.isLt
    have hint : raw.line.toInt = raw.line.toBitVec.toInt := rfl
    have hnat : raw.line.toUInt32.toNat = raw.line.toBitVec.toNat := rfl
    rw [hint, BitVec.toInt_eq_toNat_cond] at hneg ⊢
    split at hneg <;> split <;> omega

namespace Resolution

/-- **What frame `i` of a stack is shown as**, where the stack is given with its
top first and `raw` stands at `i`. Lines below zero are shown as zero. -/
structure Shows (source : FrameSource T R) (stack : List (RawFrame R)) (i : Nat)
    (raw : RawFrame R) (frame : Frame) : Prop where
  name_eq : frame.name = source.functionName raw.handle
  isNative_eq : frame.isNative = raw.isNative
  /-- A managed frame is shown at its own place. -/
  managed : raw.isNative = false →
    frame.filename = source.fileName raw.handle ∧ frame.line.toNat = raw.line.toInt.toNat
  /-- A native frame is shown at the place of the first managed frame behind it. -/
  called : raw.isNative = true → ∀ j caller, i < j → stack[j]? = some caller →
    caller.isNative = false →
    (∀ l between, i < l → l < j → stack[l]? = some between → between.isNative = true) →
    frame.filename = source.fileName caller.handle ∧
      frame.line.toNat = caller.line.toInt.toNat
  /-- A native frame without a managed frame behind it has no place. -/
  uncalled : raw.isNative = true →
    (∀ j caller, i < j → stack[j]? = some caller → caller.isNative = true) →
    frame.filename = "" ∧ frame.line = 0

/-- Where a frame with the given callers is: a managed one at its own place, a
native one at that of the first managed caller. -/
def site (raw : RawFrame R) (callers : List (RawFrame R)) : Option (RawFrame R) :=
  if raw.isNative then callers.find? fun caller => !caller.isNative else some raw

/-- The frame of a raw frame with the given callers. -/
def frameOf (source : FrameSource T R) (raw : RawFrame R) (callers : List (RawFrame R)) :
    Frame where
  name := source.functionName raw.handle
  filename := ((site raw callers).map fun caller => source.fileName caller.handle).getD ""
  line := ((site raw callers).map RawFrame.lineNumber).getD 0
  isNative := raw.isNative

/-- A managed frame is the innermost one from then on. -/
theorem caller_add (source : FrameSource T R) (raw : RawFrame R) (resolved : Resolution T R) :
    (add source raw resolved).caller = if raw.isNative then resolved.caller else some raw := by
  cases hnative : raw.isNative with
  | false => simp [add, hnative]
  | true => cases hcaller : resolved.caller <;> simp [add, hnative, hcaller]

/-- A frame has its place from the innermost managed one, itself included. -/
theorem frames_add (source : FrameSource T R) (raw : RawFrame R) (resolved : Resolution T R) :
    (add source raw resolved).frames =
      ⟨source.functionName raw.handle,
        ((add source raw resolved).caller.map fun caller => source.fileName caller.handle).getD "",
        ((add source raw resolved).caller.map RawFrame.lineNumber).getD 0, raw.isNative⟩ ::
      resolved.frames := by
  rw [caller_add]
  cases hnative : raw.isNative with
  | false => simp [add, hnative]
  | true => cases hcaller : resolved.caller <;> simp [add, hnative, hcaller]

/-- The innermost managed frame so far is the first of the stack. -/
theorem caller_ofStack (source : FrameSource T R) (stack : List (RawFrame R)) :
    (ofStack source stack).caller = stack.find? fun raw => !raw.isNative := by
  induction stack with
  | nil => rfl
  | cons raw stack ih =>
    rw [ofStack, List.foldr_cons, ← ofStack, caller_add, List.find?_cons, ih]
    cases raw.isNative <;> rfl

/-- A stack with one frame more on top. -/
theorem frames_ofStack_cons (source : FrameSource T R) (raw : RawFrame R)
    (stack : List (RawFrame R)) :
    (ofStack source (raw :: stack)).frames =
      frameOf source raw stack :: (ofStack source stack).frames := by
  rw [ofStack, List.foldr_cons, ← ofStack, frames_add, caller_add, caller_ofStack, frameOf, site]

@[simp]
theorem length_frames_ofStack (source : FrameSource T R) (stack : List (RawFrame R)) :
    (ofStack source stack).frames.length = stack.length := by
  induction stack with
  | nil => rfl
  | cons raw stack ih => rw [frames_ofStack_cons, List.length_cons, ih, List.length_cons]

/-- Each frame is resolved by its raw frame and the callers of that. -/
theorem getElem?_frames_ofStack (source : FrameSource T R) (stack : List (RawFrame R)) (i : Nat) :
    (ofStack source stack).frames[i]? =
      stack[i]?.map fun raw => frameOf source raw (stack.drop (i + 1)) := by
  induction stack generalizing i with
  | nil => rfl
  | cons raw stack ih =>
    rw [frames_ofStack_cons]
    cases i with
    | zero => rfl
    | succ i => simpa using ih i

/-- The first managed frame behind position `i`. -/
theorem find?_drop_eq_some {stack : List (RawFrame R)} {i j : Nat} {caller : RawFrame R}
    (hij : i < j) (hcaller : stack[j]? = some caller) (hmanaged : caller.isNative = false)
    (hbetween : ∀ l between, i < l → l < j → stack[l]? = some between →
      between.isNative = true) :
    (stack.drop (i + 1)).find? (fun raw => !raw.isNative) = some caller := by
  obtain ⟨hlt, rfl⟩ := List.getElem?_eq_some_iff.1 hcaller
  rw [List.find?_eq_some_iff_getElem]
  refine ⟨by simpa using hmanaged, j - (i + 1), by rw [List.length_drop]; omega, ?_, ?_⟩
  · rw [List.getElem_drop]
    congr 1
    omega
  · intro l hl
    have hlt' : i + 1 + l < stack.length := by omega
    rw [List.getElem_drop, hbetween (i + 1 + l) _ (by omega) (by omega)
      (List.getElem?_eq_getElem hlt')]
    rfl

/-- No managed frame stands behind position `i`. -/
theorem find?_drop_eq_none {stack : List (RawFrame R)} {i : Nat}
    (hnative : ∀ j caller, i < j → stack[j]? = some caller → caller.isNative = true) :
    (stack.drop (i + 1)).find? (fun raw => !raw.isNative) = none := by
  rw [List.find?_eq_none]
  intro caller hmem
  obtain ⟨l, hl⟩ := List.getElem?_of_mem hmem
  rw [List.getElem?_drop] at hl
  simp [hnative (i + 1 + l) caller (by omega) hl]

/-- **A raw frame resolves to what it is to be shown as.** -/
theorem shows_frameOf (source : FrameSource T R) (stack : List (RawFrame R)) (i : Nat)
    (raw : RawFrame R) : Shows source stack i raw (frameOf source raw (stack.drop (i + 1))) where
  name_eq := rfl
  isNative_eq := rfl
  managed := by
    intro hmanaged
    simp [frameOf, site, hmanaged, RawFrame.toNat_lineNumber]
  called := by
    intro hnative j caller hij hcaller hmanaged hbetween
    simp [frameOf, site, hnative, find?_drop_eq_some hij hcaller hmanaged hbetween,
      RawFrame.toNat_lineNumber]
  uncalled := by
    intro hnative hall
    simp [frameOf, site, hnative, find?_drop_eq_none hall]

end Resolution

end StackProfiler
