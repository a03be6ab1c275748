import Mathlib.Data.List.Nodup
import Mathlib.Order.Bounds.Basic
import StackProfiler.Capture.Scripted
import StackProfiler.Proofs.Capture.Screening
import StackProfiler.Sample
/-!
# Labels — one rule of admission

Labels come in at three places: a set is made of texts and numbers, a sample is made
of labels at hand, and a stack is captured under them. At each they are admitted if
every key says something and no two are the same, and else refused for the first
place at which a key is empty or has come before (`Admission`). That place is where
the first fault of the labels is (`firstFault_iff`), so what goes by the first fault
goes by the keys alone (`Admission.of_firstFault`), and all three say the same of the
same labels.
-/

namespace StackProfiler

namespace Label

/-! ## Places at fault -/

/-- **A fault among keys**, at the place `i`. -/
inductive FaultAt (keys : List String) (i : Nat) : SampleError → Prop
  /-- The key there is empty. -/
  | unnamed : keys[i]? = some "" → FaultAt keys i .emptyLabelKey
  /-- The key there has come before. -/
  | repeated {key : String} {j : Nat} : j < i → keys[j]? = some key → keys[i]? = some key →
      FaultAt keys i (.duplicateLabelKey key)

/-- The places at fault. -/
def faults (keys : List String) : Set Nat :=
  {i | ∃ error, FaultAt keys i error}

variable {labels : List Label} {keys front rest : List String} {i : Nat}
variable {error error' : SampleError}

/-- A fault is one of the keys up to its place, whatever keys follow. -/
theorem FaultAt.of_append (h : FaultAt (front ++ rest) i error) (hi : i < front.length) :
    FaultAt front i error := by
  cases h with
  | unnamed hkey =>
    rw [List.getElem?_append_left hi] at hkey
    exact .unnamed hkey
  | repeated hlt hearlier hkey =>
    rw [List.getElem?_append_left (hlt.trans hi)] at hearlier
    rw [List.getElem?_append_left hi] at hkey
    exact .repeated hlt hearlier hkey

/-- An empty key is a fault behind whatever keys. -/
theorem faultAt_length_of_empty :
    FaultAt (front ++ "" :: rest) front.length .emptyLabelKey :=
  .unnamed (by simp)

/-- So is a key that is one of those in front. -/
theorem faultAt_length_of_mem {key : String} (hmem : key ∈ front) :
    FaultAt (front ++ key :: rest) front.length (.duplicateLabelKey key) := by
  obtain ⟨j, hj, rfl⟩ := List.getElem_of_mem hmem
  refine .repeated hj ?_ (by simp)
  rw [List.getElem?_append_left hj, List.getElem?_eq_getElem hj]

/-- A fault behind keys that have none is the first. -/
theorem isLeast_faults_length (hfront : ∀ i error, ¬ FaultAt front i error)
    (h : FaultAt (front ++ rest) front.length error) :
    IsLeast (faults (front ++ rest)) front.length := by
  refine ⟨⟨error, h⟩, fun i hi => Nat.le_of_not_lt fun hlt => ?_⟩
  obtain ⟨other, hother⟩ := hi
  exact hfront i other (hother.of_append hlt)

/-- Validity is a matter of the keys. -/
theorem valid_iff :
    Valid labels ↔
      (∀ key ∈ labels.map Label.key, key ≠ "") ∧ (labels.map Label.key).Nodup := by
  rw [List.forall_mem_map]
  exact ⟨fun valid => ⟨valid.named, valid.distinct⟩, fun h => ⟨h.1, h.2⟩⟩

/-- **Valid labels have no place at fault.** -/
theorem Valid.not_faultAt (valid : Valid labels) : ¬ FaultAt (labels.map key) i error := by
  obtain ⟨named, distinct⟩ := valid_iff.1 valid
  rintro (hkey | ⟨hlt, hearlier, hkey⟩)
  · exact named "" (List.mem_of_getElem? hkey) rfl
  · obtain ⟨hi, -⟩ := List.getElem?_eq_some_iff.1 hkey
    exact List.nodup_iff_getElem?_ne_getElem?.1 distinct _ _ hlt hi (hearlier.trans hkey.symm)

/-- **The first fault of labels is at the first place at fault.** -/
theorem FirstFault.exists_isLeast (h : FirstFault labels error) :
    ∃ i, IsLeast (faults (labels.map key)) i ∧ FaultAt (labels.map key) i error := by
  cases h with
  | unnamed valid hempty =>
    rw [List.map_append, List.map_cons, hempty]
    exact ⟨_, isLeast_faults_length (fun _ _ => valid.not_faultAt) faultAt_length_of_empty,
      faultAt_length_of_empty⟩
  | repeated valid _ hmem =>
    rw [List.map_append, List.map_cons]
    exact ⟨_, isLeast_faults_length (fun _ _ => valid.not_faultAt) (faultAt_length_of_mem hmem),
      faultAt_length_of_mem hmem⟩

/-- **The first place at fault has one fault**: a key there that has come before is
not empty, or the earlier one would be at fault. -/
theorem FaultAt.eq_of_isLeast (hleast : IsLeast (faults keys) i) (h : FaultAt keys i error)
    (h' : FaultAt keys i error') : error = error' := by
  have named : ∀ j, j < i → keys[j]? ≠ some "" := fun j hlt hempty =>
    Nat.not_le.2 hlt (hleast.2 ⟨_, .unnamed hempty⟩)
  cases h with
  | unnamed hempty =>
    cases h' with
    | unnamed => rfl
    | repeated hlt hearlier hkey =>
      rw [← hkey, hempty] at hearlier
      exact (named _ hlt hearlier).elim
  | repeated hlt hearlier hkey =>
    cases h' with
    | unnamed hempty =>
      rw [← hkey, hempty] at hearlier
      exact (named _ hlt hearlier).elim
    | repeated _ _ hkey' => rw [Option.some.inj (hkey.symm.trans hkey')]

/-- **The first fault of labels is the one at the first place at fault.** -/
theorem firstFault_iff :
    FirstFault labels error ↔
      ∃ i, IsLeast (faults (labels.map key)) i ∧ FaultAt (labels.map key) i error := by
  refine ⟨FirstFault.exists_isLeast, fun ⟨i, hleast, hfault⟩ => ?_⟩
  have hinvalid : ¬ Valid labels := fun valid => valid.not_faultAt hfault
  obtain ⟨first, hfirst⟩ := exists_firstFault_iff.2 hinvalid
  obtain ⟨j, hleast', hfault'⟩ := hfirst.exists_isLeast
  obtain rfl : i = j := hleast.unique hleast'
  rwa [hfault.eq_of_isLeast hleast hfault']

/-! ## Admission -/

variable {α β : Type} {result : Except SampleError α} {result' : Except SampleError β}

/-- **What becomes of labels with these keys.** -/
structure Admission (keys : List String) (result : Except SampleError α) : Prop where
  /-- They are admitted if every key says something and no two are the same. -/
  isOk_iff : (∃ value, result = .ok value) ↔ (∀ key ∈ keys, key ≠ "") ∧ keys.Nodup
  /-- They are refused for the first place at fault. -/
  error_iff : ∀ error, result = .error error ↔
    ∃ i, IsLeast (faults keys) i ∧ FaultAt keys i error

/-- What goes by the validity of labels and by their first fault admits them by
their keys. -/
theorem Admission.of_firstFault (hok : (∃ value, result = .ok value) ↔ Valid labels)
    (herror : ∀ error, result = .error error ↔ FirstFault labels error) :
    Admission (labels.map key) result :=
  ⟨hok.trans valid_iff, fun error => (herror error).trans firstFault_iff⟩

/-- What hangs on the check of labels alone admits them. -/
theorem Admission.of_check (value : α) :
    Admission (labels.map key) ((check labels).map fun _ => value) := by
  refine .of_firstFault ?_ fun error => ?_
  · rw [← check_eq_ok_iff]
    cases check labels <;> simp [Except.map]
  · rw [← check_eq_error_iff]
    cases check labels <;> simp [Except.map]

/-- What has been said of labels, whatever came of it. -/
def verdict (result : Except SampleError α) : Except SampleError Unit :=
  result.map fun _ => ()

/-- **The keys decide what is said of labels.** -/
theorem Admission.verdict_eq (h : Admission keys result) (h' : Admission keys result') :
    verdict result = verdict result' := by
  cases result with
  | ok value =>
    obtain ⟨value', rfl⟩ := h'.isOk_iff.2 (h.isOk_iff.1 ⟨value, rfl⟩)
    rfl
  | error error =>
    obtain rfl := (h'.error_iff error).2 ((h.error_iff error).1 rfl)
    rfl

/-! ## The three places -/

/-- The keys of given texts and numbers. -/
theorem map_key_paired (texts : List (String × String)) (numbers : List (String × Int64)) :
    (paired texts numbers).map key = texts.map Prod.fst ++ numbers.map Prod.fst := by
  simp [paired, str, num, Function.comp_def]

theorem ofPairs_admission (texts : List (String × String)) (numbers : List (String × Int64)) :
    Admission (texts.map Prod.fst ++ numbers.map Prod.fst) (ofPairs texts numbers) := by
  rw [ofPairs_eq, ← map_key_paired]
  exact .of_check _

theorem eq_paired_of_ofPairs_eq_ok {texts : List (String × String)}
    {numbers : List (String × Int64)} (h : ofPairs texts numbers = .ok labels) :
    labels = paired texts numbers := by
  rw [ofPairs_eq] at h
  cases hcheck : check (paired texts numbers) with
  | error error =>
    rw [hcheck] at h
    cases h
  | ok checked =>
    rw [hcheck] at h
    exact (Except.ok.inj h).symm

theorem checked_admission (frames : List Frame) (labels : List Label) (values : MetricValues) :
    Admission (labels.map key) (Sample.checked frames labels values) := by
  have heq : Sample.checked frames labels values =
      (check labels).map fun _ => ⟨frames, labels, values⟩ := by
    rw [Sample.checked]
    cases check labels <;> rfl
  exact heq ▸ .of_check _

variable {T R : Type} [Inhabited R]

theorem capture_admission (collector : Collector R) (source : FrameSource T R)
    {request : CaptureRequest T} (budget : InBudget request.maxFrames) :
    Admission (request.labels.map key) (collector.capture source request).result := by
  have screened := collector.capture_screened source request
  exact .of_firstFault (screened.isOk_iff.trans (and_iff_right budget))
    (screened.firstFault_iff budget)

variable (T R) in
/-- **One rule for labels**, wherever they come in. -/
structure AdmittedAlike : Prop where
  /-- A set is made of texts and numbers if the keys of both together allow it, -/
  admission_ofPairs : ∀ texts numbers,
    Admission (texts.map Prod.fst ++ numbers.map Prod.fst) (ofPairs texts numbers)
  /-- and then it holds the texts and behind them the numbers, in their order. -/
  eq_paired_of_ok : ∀ texts numbers labels, ofPairs texts numbers = .ok labels →
    labels = paired texts numbers
  /-- A sample is made of labels if their keys allow it, -/
  admission_checked : ∀ frames labels values,
    Admission (labels.map key) (Sample.checked frames labels values)
  /-- and so is a stack captured under them, with a budget that may be asked for. -/
  admission_capture : ∀ (collector : Collector R) (source : FrameSource T R) request,
    InBudget request.maxFrames →
    Admission (request.labels.map key) (collector.capture source request).result
  /-- So a sample of the labels of a set is made or refused as the set is, -/
  verdict_ofPairs : ∀ texts numbers frames values,
    verdict (Sample.checked frames (paired texts numbers) values) =
      verdict (ofPairs texts numbers)
  /-- and a capture under labels is made or refused as a sample of them is. -/
  verdict_capture : ∀ (collector : Collector R) (source : FrameSource T R) request frames values,
    InBudget request.maxFrames →
    verdict (collector.capture source request).result =
      verdict (Sample.checked frames request.labels values)

/-- **Labels are admitted alike wherever they come in.** -/
theorem admittedAlike : AdmittedAlike T R where
  admission_ofPairs := ofPairs_admission
  eq_paired_of_ok _ _ _ := eq_paired_of_ofPairs_eq_ok
  admission_checked := checked_admission
  admission_capture collector source _ := capture_admission collector source
  verdict_ofPairs texts numbers frames values := by
    have checked := checked_admission frames (paired texts numbers) values
    rw [map_key_paired] at checked
    exact checked.verdict_eq (ofPairs_admission texts numbers)
  verdict_capture collector source request frames values budget :=
    (capture_admission collector source budget).verdict_eq
      (checked_admission frames request.labels values)

/-- A key that has come before is the first fault, in front of one that is empty:
the set is refused for it, and so is a capture with the largest budget. -/
theorem admittedAlike_repeatedBeforeUnnamed :
    InBudget 10000 ∧ IsLeast (faults ["a", "b", "a", ""]) 2 ∧
      ofPairs [("a", "x"), ("b", "x")] [("a", 3), ("", 4)] = .error (.duplicateLabelKey "a") ∧
      (({} : Collector Nat).capture ({ table := #[] } : Script).source
        ⟨1, 10000, true, {}, [.str "a" "x", .str "b" "x", .num "a" 3, .num "" 4]⟩).result =
          .error (.duplicateLabelKey "a") := by
  have alike : AdmittedAlike Nat Nat := admittedAlike
  have budget : InBudget 10000 := ⟨by decide, by decide⟩
  have valid : Valid [.str "a" "x", .str "b" "x"] := ⟨by decide, by decide⟩
  have hfault : FaultAt ["a", "b", "a", ""] 2 (.duplicateLabelKey "a") :=
    .repeated (j := 0) (by decide) rfl rfl
  have hleast : IsLeast (faults ["a", "b", "a", ""]) 2 :=
    isLeast_faults_length (fun _ _ => valid.not_faultAt) hfault
  exact ⟨budget, hleast,
    ((alike.admission_ofPairs _ _).error_iff _).2 ⟨2, hleast, hfault⟩,
    ((alike.admission_capture _ _ _ budget).error_iff _).2 ⟨2, hleast, hfault⟩⟩

end Label

end StackProfiler
