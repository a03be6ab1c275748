import StackProfiler.Profile.Basic
import StackProfiler.Proofs.Table
/-!
# Profiles — what they have gathered

A profile that has gathered some samples numbers their frames and their labels
in order of first appearance, has one key for each pair of a stack and a set of
labels, and for each key the sum of its samples. `Gathers` states this of a
profile and the samples; `gathers_gathered` proves it of a profile to which
exactly these samples have been added.
-/

namespace StackProfiler

/-! ## Sums that stop -/

/-- The amount, or the largest 64-bit number if it is larger. -/
def saturated (n : Nat) : UInt64 := UInt64.ofNat (min n (UInt64.size - 1))

@[simp]
theorem toNat_saturated (n : Nat) : (saturated n).toNat = min n (UInt64.size - 1) := by
  rw [saturated, UInt64.toNat_ofNat_of_lt']
  have : UInt64.size = 18446744073709551616 := rfl
  omega

/-- A 64-bit amount is not changed. -/
theorem saturated_toNat (a : UInt64) : saturated a.toNat = a := by
  apply UInt64.toNat_inj.1
  have := a.toNat_lt_size
  rw [toNat_saturated]
  omega

/-- **Stopping may wait**: adding to a sum that has stopped is stopping after
the addition. -/
theorem addSaturating_saturated (n : Nat) (a : UInt64) :
    addSaturating (saturated n) a = saturated (n + a.toNat) := by
  apply UInt64.toNat_inj.1
  change (saturated ((saturated n).toNat + a.toNat)).toNat = _
  simp only [toNat_saturated]
  omega

/-- And so for any number of stopped sums. -/
theorem foldl_addSaturating (ns : List Nat) (n : Nat) :
    (ns.map saturated).foldl addSaturating (saturated n) = saturated (n + ns.sum) := by
  induction ns generalizing n with
  | nil => simp
  | cons m ns ih =>
    have hstep : addSaturating (saturated n) (saturated m) = saturated (n + m) := by
      rw [addSaturating_saturated, toNat_saturated]
      apply UInt64.toNat_inj.1
      simp only [toNat_saturated]
      omega
    rw [List.map_cons, List.foldl_cons, hstep, ih, List.sum_cons]
    congr 1
    omega

/-! ## The samples of a profile -/

/-- The frames of some samples, each where it first comes. -/
def distinctFrames (samples : List Sample) : List Frame :=
  (samples.flatMap Sample.frames).eraseDups

/-- The labels of some samples, each where it first comes. -/
def distinctLabels (samples : List Sample) : List Label :=
  (samples.flatMap Sample.labels).eraseDups

/-- **32-bit numbers are enough** for the frames and for the labels of the
samples. -/
structure Numberable (samples : List Sample) : Prop where
  frames_lt : (distinctFrames samples).length < UInt32.size
  labels_lt : (distinctLabels samples).length < UInt32.size

theorem mem_distinctFrames {samples : List Sample} {sample : Sample} (h : sample ∈ samples)
    {frame : Frame} (hf : frame ∈ sample.frames) : frame ∈ distinctFrames samples :=
  List.mem_eraseDups.2 (List.mem_flatMap.2 ⟨sample, h, hf⟩)

theorem mem_distinctLabels {samples : List Sample} {sample : Sample} (h : sample ∈ samples)
    {label : Label} (hl : label ∈ sample.labels) : label ∈ distinctLabels samples :=
  List.mem_eraseDups.2 (List.mem_flatMap.2 ⟨sample, h, hl⟩)

theorem distinctFrames_concat (samples : List Sample) (sample : Sample) :
    distinctFrames (samples ++ [sample]) =
      (distinctFrames samples ++ sample.frames).eraseDups := by
  simp [distinctFrames, eraseDups_eraseDups_append]

theorem distinctLabels_concat (samples : List Sample) (sample : Sample) :
    distinctLabels (samples ++ [sample]) =
      (distinctLabels samples ++ sample.labels).eraseDups := by
  simp [distinctLabels, eraseDups_eraseDups_append]

namespace Profile

/-- The key of a sample by the profile's numbers. -/
def keyOf (profile : Profile) (sample : Sample) : SampleKey :=
  .ofPositions (sample.frames.map profile.locations.toList.idxOf)
    (sample.labels.map profile.labels.toList.idxOf)

/-- The sums of some samples at a key, one for each value type. -/
def sumsAt (profile : Profile) (samples : List Sample) (key : SampleKey) : List UInt64 :=
  profile.valueTypes.map fun metric =>
    saturated (groupSum profile.keyOf (fun sample => (sample.values.get metric).toNat) samples key)

/-- A profile that starts at the given instant and has been given exactly these
samples. -/
def gathered (valueTypes : List Metric) (start : Instant) (samples : List Sample) : Profile :=
  samples.foldl add (new valueTypes start)

/-- **What a profile has gathered**, table by table. -/
structure Gathers (profile : Profile) (samples : List Sample) : Prop where
  locations_exact : profile.locations.Exact
  locations_toList : profile.locations.toList = distinctFrames samples
  labels_exact : profile.labels.Exact
  labels_toList : profile.labels.toList = distinctLabels samples
  keys_exact : profile.keys.Exact
  /-- The keys of the samples, each where it first comes. -/
  keys_toList : profile.keys.toList = (samples.map profile.keyOf).eraseDups
  sums_toList : profile.sums.toList = profile.keys.toList.map (profile.sumsAt samples)

theorem gathers_new (valueTypes : List Metric) (start : Instant) :
    (new valueTypes start).Gathers [] where
  locations_exact := Table.exact_empty
  locations_toList := rfl
  labels_exact := Table.exact_empty
  labels_toList := rfl
  keys_exact := Table.exact_empty
  keys_toList := rfl
  sums_toList := rfl

/-! ## One sample more -/

/-- The sums at the key of a sample grow, or begin. -/
theorem sums_add (profile : Profile) (sample : Sample) :
    (profile.add sample).sums =
      (profile.keys.find? (.ofPositions (profile.locations.internAll sample.frames).1
        (profile.labels.internAll sample.labels).1)).elim
          (profile.sums.push (profile.amounts sample))
          (fun entry => profile.sums.modify entry fun sums =>
            List.zipWith addSaturating sums (profile.amounts sample)) := by
  unfold add
  dsimp only
  cases profile.keys.find? (.ofPositions (profile.locations.internAll sample.frames).1
    (profile.labels.internAll sample.labels).1) <;> rfl

namespace Gathers

variable {profile : Profile} {samples : List Sample} (h : profile.Gathers samples)
include h

theorem add_locations_toList (sample : Sample) :
    (profile.add sample).locations.toList = distinctFrames (samples ++ [sample]) := by
  change (profile.locations.internAll sample.frames).2.toList = _
  rw [h.locations_exact.internAll_items, h.locations_toList, distinctFrames_concat]

theorem add_labels_toList (sample : Sample) :
    (profile.add sample).labels.toList = distinctLabels (samples ++ [sample]) := by
  change (profile.labels.internAll sample.labels).2.toList = _
  rw [h.labels_exact.internAll_items, h.labels_toList, distinctLabels_concat]

/-- The key under which a sample is added is its key by the numbers afterwards. -/
theorem add_keyOf_self (sample : Sample) :
    SampleKey.ofPositions (profile.locations.internAll sample.frames).1
        (profile.labels.internAll sample.labels).1 =
      (profile.add sample).keyOf sample := by
  rw [h.locations_exact.internAll_positions, h.labels_exact.internAll_positions]
  rfl

/-- **Keys are stable**: no number given out before changes. -/
theorem add_keyOf_of_mem {sample other : Sample} (hmem : other ∈ samples) :
    (profile.add sample).keyOf other = profile.keyOf other := by
  have hframes : other.frames.map (profile.add sample).locations.toList.idxOf =
      other.frames.map profile.locations.toList.idxOf :=
    List.map_congr_left fun frame hf => by
      rw [h.add_locations_toList, h.locations_toList, distinctFrames, List.flatMap_append,
        idxOf_eraseDups_append (List.mem_flatMap.2 ⟨other, hmem, hf⟩), distinctFrames]
  have hlabels : other.labels.map (profile.add sample).labels.toList.idxOf =
      other.labels.map profile.labels.toList.idxOf :=
    List.map_congr_left fun label hl => by
      rw [h.add_labels_toList, h.labels_toList, distinctLabels, List.flatMap_append,
        idxOf_eraseDups_append (List.mem_flatMap.2 ⟨other, hmem, hl⟩), distinctLabels]
  rw [keyOf, keyOf, hframes, hlabels]

/-- The keys of the samples there were, and that of the new one. -/
theorem map_keyOf_add (sample : Sample) :
    (samples ++ [sample]).map (profile.add sample).keyOf =
      samples.map profile.keyOf ++ [(profile.add sample).keyOf sample] := by
  have hold : samples.map (profile.add sample).keyOf = samples.map profile.keyOf :=
    List.map_congr_left fun other hmem => h.add_keyOf_of_mem hmem
  rw [List.map_append, hold, List.map_singleton]

theorem add_keys_toList (sample : Sample) :
    (profile.add sample).keys.toList =
      ((samples ++ [sample]).map (profile.add sample).keyOf).eraseDups := by
  change (profile.keys.intern (SampleKey.ofPositions _ _)).2.toList = _
  rw [h.keys_exact.intern_items, h.keys_toList, h.add_keyOf_self, h.map_keyOf_add,
    eraseDups_eraseDups_append]

/-- The sums at a key, with one sample more of some key. -/
theorem add_sumsAt (sample : Sample) (key : SampleKey) :
    (profile.add sample).sumsAt (samples ++ [sample]) key =
      if (profile.add sample).keyOf sample = key then
        List.zipWith addSaturating (profile.sumsAt samples key) (profile.amounts sample)
      else profile.sumsAt samples key := by
  have hsum : ∀ metric : Metric,
      groupSum (profile.add sample).keyOf (fun sample => (sample.values.get metric).toNat)
          (samples ++ [sample]) key =
        groupSum profile.keyOf (fun sample => (sample.values.get metric).toNat) samples key +
          if (profile.add sample).keyOf sample = key then (sample.values.get metric).toNat
          else 0 := by
    intro metric
    rw [groupSum_concat, groupSum_congr fun other hmem => h.add_keyOf_of_mem hmem]
  have htypes : (profile.add sample).valueTypes = profile.valueTypes := rfl
  by_cases hkey : (profile.add sample).keyOf sample = key
  · rw [if_pos hkey, sumsAt, htypes, sumsAt, amounts, List.zipWith_map, List.zipWith_self]
    refine List.map_congr_left fun metric _ => ?_
    rw [hsum, if_pos hkey, addSaturating_saturated]
  · rw [if_neg hkey, sumsAt, htypes, sumsAt]
    refine List.map_congr_left fun metric _ => ?_
    rw [hsum, if_neg hkey, Nat.add_zero]

/-- The sums of a key that has not come before are those of its first sample. -/
theorem add_sumsAt_of_new {sample : Sample}
    (hnew : (profile.add sample).keyOf sample ∉ profile.keys.toList) :
    (profile.add sample).sumsAt (samples ++ [sample]) ((profile.add sample).keyOf sample) =
      profile.amounts sample := by
  have hzero : ∀ f, groupSum profile.keyOf f samples ((profile.add sample).keyOf sample) = 0 :=
    fun f => groupSum_of_not_mem (by rwa [h.keys_toList, List.mem_eraseDups] at hnew)
  rw [h.add_sumsAt, if_pos rfl, sumsAt, amounts, List.zipWith_map, List.zipWith_self]
  refine List.map_congr_left fun metric _ => ?_
  rw [hzero, addSaturating_saturated, Nat.zero_add, saturated_toNat]

theorem add_sums_toList (sample : Sample) :
    (profile.add sample).sums.toList =
      (profile.add sample).keys.toList.map
        ((profile.add sample).sumsAt (samples ++ [sample])) := by
  have hkeys : (profile.add sample).keys.toList =
      (profile.keys.toList ++ [(profile.add sample).keyOf sample]).eraseDups := by
    rw [h.add_keys_toList, h.map_keyOf_add, h.keys_toList, eraseDups_eraseDups_append]
  -- the sums of all other keys stay
  have hother : ∀ key ∈ profile.keys.toList, key ≠ (profile.add sample).keyOf sample →
      (profile.add sample).sumsAt (samples ++ [sample]) key = profile.sumsAt samples key :=
    fun key _ hne => by rw [h.add_sumsAt, if_neg (Ne.symm hne)]
  rw [sums_add, h.add_keyOf_self, hkeys, eraseDups_concat, eraseDups_of_nodup h.keys_exact.nodup]
  by_cases hmem : (profile.add sample).keyOf sample ∈ profile.keys.toList
  · rw [h.keys_exact.find?_of_mem hmem, if_pos hmem, Option.elim_some, Array.toList_modify,
      h.sums_toList]
    refine map_modify_idxOf h.keys_exact.nodup hmem ?_ hother
    rw [h.add_sumsAt, if_pos rfl]
  · rw [h.keys_exact.find?_of_not_mem hmem, if_neg hmem, List.map_append, List.map_singleton,
      h.add_sumsAt_of_new hmem, Option.elim_none, Array.toList_push, h.sums_toList]
    congr 1
    exact List.map_congr_left fun key hkey =>
      (hother key hkey fun heq => hmem (heq ▸ hkey)).symm

/-- **Adding a sample** to what a profile has gathered. -/
theorem add (sample : Sample) : (profile.add sample).Gathers (samples ++ [sample]) where
  locations_exact := h.locations_exact.internAll sample.frames
  locations_toList := h.add_locations_toList sample
  labels_exact := h.labels_exact.internAll sample.labels
  labels_toList := h.add_labels_toList sample
  keys_exact := h.keys_exact.intern _
  keys_toList := h.add_keys_toList sample
  sums_toList := h.add_sums_toList sample

end Gathers

/-- A profile to which one sample more is added. -/
theorem gathered_concat (valueTypes : List Metric) (start : Instant) (samples : List Sample)
    (sample : Sample) :
    gathered valueTypes start (samples ++ [sample]) =
      (gathered valueTypes start samples).add sample :=
  List.foldl_concat ..

/-- **A profile gathers the samples that are added to it.** -/
theorem gathers_gathered (valueTypes : List Metric) (start : Instant) (samples : List Sample) :
    (gathered valueTypes start samples).Gathers samples := by
  induction samples using List.reverseRecOn with
  | nil => exact gathers_new valueTypes start
  | append_singleton samples sample ih =>
    rw [gathered_concat]
    exact ih.add sample

@[simp]
theorem valueTypes_gathered (valueTypes : List Metric) (start : Instant)
    (samples : List Sample) : (gathered valueTypes start samples).valueTypes = valueTypes := by
  induction samples using List.reverseRecOn with
  | nil => rfl
  | append_singleton samples sample ih =>
    rw [gathered_concat]
    exact ih

@[simp]
theorem startTime_gathered (valueTypes : List Metric) (start : Instant)
    (samples : List Sample) : (gathered valueTypes start samples).startTime = start := by
  induction samples using List.reverseRecOn with
  | nil => rfl
  | append_singleton samples sample ih =>
    rw [gathered_concat]
    exact ih

/-- Moving the start moves nothing else. -/
theorem setStartTime_gathered (valueTypes : List Metric) (start startTime : Instant)
    (samples : List Sample) :
    { gathered valueTypes start samples with startTime } =
      gathered valueTypes startTime samples := by
  induction samples using List.reverseRecOn with
  | nil => rfl
  | append_singleton samples sample ih =>
    rw [gathered_concat, gathered_concat, ← ih]
    rfl

/-- **A profile is empty** only before the first sample. -/
theorem isEmpty_gathered_iff (valueTypes : List Metric) (start : Instant)
    (samples : List Sample) :
    (gathered valueTypes start samples).isEmpty = true ↔ samples = [] := by
  constructor
  · intro hempty
    have hgathers := gathers_gathered valueTypes start samples
    have hsums : (gathered valueTypes start samples).sums.toList = [] := by
      simpa [isEmpty, size] using hempty
    rw [hgathers.sums_toList, List.map_eq_nil_iff, hgathers.keys_toList] at hsums
    -- a sample would have a key
    refine List.eq_nil_iff_forall_not_mem.2 fun sample hmem => ?_
    have hkey := List.mem_eraseDups.2
      (List.mem_map_of_mem (f := (gathered valueTypes start samples).keyOf) hmem)
    rw [hsums] at hkey
    cases hkey
  · rintro rfl
    rfl

end Profile

end StackProfiler
