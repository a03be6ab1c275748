import StackProfiler.Capture.Collector
import StackProfiler.Proofs.Label
/-!
# Captures — screening

What is asked of a collector is screened before anything is walked: the budget
first and then the labels (`screen`). A capture fails with the fault that screening
finds, and then nothing has happened. Behind screening it succeeds, so no check that
is made again further down fails (`Collector.capture_of_screen_ok`).
-/

namespace StackProfiler

variable {P T R α : Type}

/-! ## The first fault -/

/-- **A budget that may be asked for.** -/
structure InBudget (maxFrames : Int64) : Prop where
  nonneg : 0 ≤ maxFrames.toInt
  le_limit : maxFrames.toInt ≤ 10000

/-- The check of a budget has one fault to tell. -/
theorem checkMaxFrames_cases (maxFrames : Int64) :
    (InBudget maxFrames ∧ ∃ m, checkMaxFrames maxFrames = .ok m) ∨
      (¬ InBudget maxFrames ∧
        checkMaxFrames maxFrames = .error (.invalidMaxFrames maxFrames)) := by
  have hlimit : (maxFramesLimit : Int) = 10000 := rfl
  rw [checkMaxFrames, hlimit]
  split
  next h =>
    simp only [Bool.and_eq_true, decide_eq_true_eq] at h
    exact .inl ⟨⟨h.1, h.2⟩, _, rfl⟩
  next h =>
    simp only [Bool.and_eq_true, decide_eq_true_eq] at h
    exact .inr ⟨fun hin => h ⟨hin.nonneg, hin.le_limit⟩, rfl⟩

/-- A budget that passes the check is what was asked for, and within the limit. -/
theorem Collector.checkMaxFrames_eq_ok_iff {maxFrames : Int64} {m : Nat} :
    checkMaxFrames maxFrames = .ok m ↔ maxFrames.toInt = m ∧ m ≤ maxFramesLimit := by
  rw [checkMaxFrames]
  split
  next h =>
    simp only [Bool.and_eq_true, decide_eq_true_eq] at h
    simp only [Except.ok.injEq]
    omega
  next h =>
    simp only [Bool.and_eq_true, decide_eq_true_eq] at h
    simp only [reduceCtorEq, false_iff]
    omega

/-- A number within the limit passes. -/
theorem Collector.checkMaxFrames_ofNat {m : Nat} (hle : m ≤ 10000) :
    checkMaxFrames (Int64.ofNat m) = .ok m :=
  checkMaxFrames_eq_ok_iff.2 ⟨Int64.toInt_ofNat_of_lt (by omega), hle⟩

/-- The first fault of a budget and labels, if there is one. -/
def screen (maxFrames : Int64) (labels : List Label) : Except SampleError Unit :=
  match checkMaxFrames maxFrames with
  | .error error => .error error
  | .ok _ => Label.check labels

/-- A budget that may be asked for leaves the labels to be looked at. -/
theorem screen_of_inBudget {maxFrames : Int64} (h : InBudget maxFrames) (labels : List Label) :
    screen maxFrames labels = Label.check labels := by
  rcases checkMaxFrames_cases maxFrames with ⟨-, m, hm⟩ | ⟨hout, -⟩
  · rw [screen, hm]
  · exact (hout h).elim

/-- Any other is the fault, whatever the labels are. -/
theorem screen_of_not_inBudget {maxFrames : Int64} (h : ¬ InBudget maxFrames)
    (labels : List Label) :
    screen maxFrames labels = .error (.invalidMaxFrames maxFrames) := by
  rcases checkMaxFrames_cases maxFrames with ⟨hin, -⟩ | ⟨-, herror⟩
  · exact (h hin).elim
  · rw [screen, herror]

theorem screen_eq_ok_iff {maxFrames : Int64} {labels : List Label} :
    screen maxFrames labels = .ok () ↔ InBudget maxFrames ∧ Label.Valid labels := by
  by_cases h : InBudget maxFrames
  · rw [screen_of_inBudget h, Label.check_eq_ok_iff, and_iff_right h]
  · simp [screen_of_not_inBudget h, h]

/-- Labels are never at fault for a budget. -/
theorem Label.FirstFault.ne_invalidMaxFrames {labels : List Label} {error : SampleError}
    (h : FirstFault labels error) (maxFrames : Int64) : error ≠ .invalidMaxFrames maxFrames := by
  cases h <;> exact nofun

/-! ## Results behind screening -/

/-- **A result that there is unless screening finds a fault.** -/
structure Screened (maxFrames : Int64) (labels : List Label) (result : Except SampleError α) :
    Prop where
  /-- A budget out of range is the fault, whatever the labels are. -/
  invalidMaxFrames_iff : result = .error (.invalidMaxFrames maxFrames) ↔ ¬ InBudget maxFrames
  /-- With a budget in range, the first fault of the labels is. -/
  firstFault_iff : InBudget maxFrames → ∀ error, result = .error error ↔
    Label.FirstFault labels error
  /-- There is no other fault. -/
  isOk_iff : (∃ value, result = .ok value) ↔ InBudget maxFrames ∧ Label.Valid labels

/-- A result is screened if it follows from what screening finds. -/
theorem Screened.of_screen {maxFrames : Int64} {labels : List Label}
    {result : Except SampleError α}
    (herror : ∀ error, screen maxFrames labels = .error error → result = .error error)
    (hok : screen maxFrames labels = .ok () → ∃ value, result = .ok value) :
    Screened maxFrames labels result := by
  have herror_iff : ∀ error, result = .error error ↔ screen maxFrames labels = .error error := by
    cases hscreen : screen maxFrames labels with
    | error error => simp [herror error hscreen]
    | ok checked =>
      obtain ⟨value, rfl⟩ := hok hscreen
      simp
  have hok_iff : (∃ value, result = .ok value) ↔ screen maxFrames labels = .ok () := by
    cases hscreen : screen maxFrames labels with
    | error error => simp [herror error hscreen]
    | ok checked => exact iff_of_true (hok hscreen) rfl
  refine ⟨?_, fun hin error => ?_, hok_iff.trans screen_eq_ok_iff⟩
  · rw [herror_iff]
    by_cases hin : InBudget maxFrames
    · rw [screen_of_inBudget hin, Label.check_eq_error_iff]
      exact iff_of_false (fun hfault => hfault.ne_invalidMaxFrames _ rfl) (not_not_intro hin)
    · exact iff_of_true (screen_of_not_inBudget hin labels) hin
  · rw [herror_iff, screen_of_inBudget hin, Label.check_eq_error_iff]

/-- Slots are made for every budget within the limit. -/
theorem SamplingBuffer.new_isOk [Inhabited R] {m : Nat} (hle : m ≤ maxFramesLimit) :
    ∃ buffer : SamplingBuffer R, new m = .ok buffer :=
  ⟨_, if_neg (Nat.not_lt.2 hle)⟩

namespace Collector

variable [Inhabited R] (collector : Collector R) (source : FrameSource T R)
variable (request : CaptureRequest T) {error : SampleError}

/-- A budget within the limit never lacks slots, whatever slots there are. -/
theorem bufferFor_isOk {m : Nat} (hle : m ≤ maxFramesLimit) :
    ∃ buffer, collector.bufferFor m = .ok buffer := by
  unfold Collector.bufferFor
  split
  · split
    · exact ⟨_, rfl⟩
    · exact SamplingBuffer.new_isOk hle
  · exact SamplingBuffer.new_isOk hle

/-- **What a capture comes to.** It fails in screening, and then nothing is asked of
the source, logged or changed. Else it has no budget and the same is so, or slots
are found for its budget and filled. -/
theorem capture_cases :
    (∃ error, screen request.maxFrames request.labels = .error error ∧
      collector.capture source request = ⟨.error error, [], [], collector⟩) ∨
    (screen request.maxFrames request.labels = .ok () ∧ request.maxFrames = 0 ∧
      collector.capture source request =
        ⟨.ok ⟨if request.inGc then [.garbageCollection] else [], request.labels, request.values⟩,
          [], [], collector⟩) ∨
    (screen request.maxFrames request.labels = .ok () ∧ ∃ m buffer, 0 < m ∧
      checkMaxFrames request.maxFrames = .ok m ∧ collector.bufferFor m = .ok buffer ∧
      let walked := fill source request.thread request.inGc buffer.view
      collector.capture source request =
        ⟨.ok ⟨walked.view.frames.take walked.captured, request.labels, request.values⟩,
          walked.calls, walked.log, ⟨some { buffer with view := walked.view }⟩⟩) := by
  rw [screen, capture]
  cases hm : checkMaxFrames request.maxFrames with
  | error error => exact .inl ⟨error, rfl, rfl⟩
  | ok m =>
  obtain ⟨htoInt, hle⟩ := checkMaxFrames_eq_ok_iff.1 hm
  dsimp only
  cases Label.check request.labels with
  | error error => exact .inl ⟨error, rfl, rfl⟩
  | ok checked =>
  dsimp only
  split
  next hzero =>
    subst hzero
    exact .inr (.inl ⟨rfl, Int64.toInt_inj.1 htoInt, rfl⟩)
  next hsome =>
    obtain ⟨buffer, hbuffer⟩ := collector.bufferFor_isOk hle
    rw [hbuffer]
    exact .inr (.inr ⟨rfl, m, buffer, Nat.pos_of_ne_zero hsome, rfl, hbuffer, rfl⟩)

/-- **A capture that fails in screening ends there.** -/
theorem capture_of_screen_error
    (h : screen request.maxFrames request.labels = .error error) :
    collector.capture source request = ⟨.error error, [], [], collector⟩ := by
  rcases collector.capture_cases source request with ⟨error', hscreen, heq⟩ | ⟨hscreen, -⟩ |
    ⟨hscreen, -⟩
  · rw [heq, Except.error.inj (hscreen.symm.trans h)]
  · cases hscreen.symm.trans h
  · cases hscreen.symm.trans h

/-- **Behind screening a capture succeeds**, and it takes over labels and values. -/
theorem capture_of_screen_ok (h : screen request.maxFrames request.labels = .ok ()) :
    ∃ frames, (collector.capture source request).result =
      .ok ⟨frames, request.labels, request.values⟩ := by
  rcases collector.capture_cases source request with ⟨error, hscreen, -⟩ | ⟨-, -, heq⟩ |
    ⟨-, m, buffer, -, -, -, heq⟩
  · cases hscreen.symm.trans h
  · exact ⟨_, congrArg Captured.result heq⟩
  · exact ⟨_, congrArg Captured.result heq⟩

theorem capture_screened :
    Screened request.maxFrames request.labels (collector.capture source request).result :=
  .of_screen (fun _ h => by rw [collector.capture_of_screen_error source request h])
    fun h => (collector.capture_of_screen_ok source request h).imp' _ fun _ => id

/-- A capture that fails has done nothing. -/
theorem capture_eq_of_error (h : (collector.capture source request).result = .error error) :
    collector.capture source request = ⟨.error error, [], [], collector⟩ := by
  cases hscreen : screen request.maxFrames request.labels with
  | error error' =>
    rw [collector.capture_of_screen_error source request hscreen] at h ⊢
    rw [Except.error.inj h]
  | ok checked =>
    obtain ⟨frames, hresult⟩ := collector.capture_of_screen_ok source request hscreen
    cases hresult.symm.trans h

variable [ProfileStore P] (recorder : Recorder P)

/-- **At a fault the recorder is left alone as well.** -/
theorem sample_of_screen_error (h : screen request.maxFrames request.labels = .error error) :
    collector.sample source recorder request = ⟨.error error, [], [], collector, recorder⟩ := by
  rw [sample, collector.capture_of_screen_error source request h]

/-- Behind screening, the recorder has the say. -/
theorem sample_of_screen_ok (h : screen request.maxFrames request.labels = .ok ()) :
    ∃ recorded,
      (collector.sample source recorder request).result = .ok (.ofRecorded recorded) := by
  obtain ⟨frames, hresult⟩ := collector.capture_of_screen_ok source request h
  exact ⟨_, by rw [Collector.sample, hresult]⟩

theorem sample_screened :
    Screened request.maxFrames request.labels
      (collector.sample source recorder request).result :=
  .of_screen (fun _ h => by rw [collector.sample_of_screen_error source request recorder h])
    fun h => (collector.sample_of_screen_ok source request recorder h).imp' _ fun _ => id

/-- A sample that fails has left everything as it was. -/
theorem sample_eq_of_error
    (h : (collector.sample source recorder request).result = .error error) :
    collector.sample source recorder request = ⟨.error error, [], [], collector, recorder⟩ := by
  cases hscreen : screen request.maxFrames request.labels with
  | error error' =>
    rw [collector.sample_of_screen_error source request recorder hscreen] at h ⊢
    rw [Except.error.inj h]
  | ok checked =>
    obtain ⟨recorded, hresult⟩ := collector.sample_of_screen_ok source request recorder hscreen
    cases hresult.symm.trans h

end Collector

end StackProfiler
