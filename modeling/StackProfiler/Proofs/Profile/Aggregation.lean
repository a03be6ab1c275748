import StackProfiler.Proofs.Profile.History
import Mathlib.Data.Multiset.Basic
/-!
# Profiles — aggregation

Samples are alike when their stacks are equal and their labels are the same up
to order. A profile has one entry for each class of alike samples, in the order
in which the classes were first seen, and the entry's values are the sums of
its class (`Aggregates`). So it is after any history of calls, as long as 32
bits are enough to number the frames and the labels; whoever holds a profile can
read back from it what it `Comprises`.
-/

namespace StackProfiler

/-! ## Alike samples -/

/-- What alike samples have in common: the stack and, in no order, the labels. -/
def Sample.kind (sample : Sample) : List Frame × Multiset Label :=
  (sample.frames, sample.labels)

/-- What an entry's samples have in common. -/
def Entry.kind (entry : Entry) : List Frame × Multiset Label :=
  (entry.frames, entry.labels)

theorem Sample.kind_eq_iff {a b : Sample} :
    a.kind = b.kind ↔ a.frames = b.frames ∧ a.labels.Perm b.labels := by
  simp [kind]

/-- The sum of a metric over the samples with the given stack and, in any order,
the given labels. -/
def sumAlike (samples : List Sample) (frames : List Frame) (labels : List Label)
    (metric : Metric) : Nat :=
  ((samples.filter fun sample => sample.frames = frames ∧ sample.labels.Perm labels).map
    fun sample => (sample.values.get metric).toNat).sum

/-- The order of the labels does not matter. -/
theorem sumAlike_congr {labels labels' : List Label} (h : labels.Perm labels')
    (samples : List Sample) (frames : List Frame) (metric : Metric) :
    sumAlike samples frames labels metric = sumAlike samples frames labels' metric := by
  have hfilter : (samples.filter fun sample =>
      sample.frames = frames ∧ sample.labels.Perm labels) =
        samples.filter fun sample => sample.frames = frames ∧ sample.labels.Perm labels' :=
    List.filter_congr fun sample _ => decide_eq_decide.2
      (and_congr_right fun _ => ⟨fun hl => hl.trans h, fun hl => hl.trans h.symm⟩)
  rw [sumAlike, sumAlike, hfilter]

namespace Profile

/-- **What a profile denotes**: the aggregation of the samples it has
gathered. -/
structure Aggregates (profile : Profile) (samples : List Sample) : Prop where
  /-- One entry for each class of alike samples, the class first seen first. -/
  kinds : profile.entries.map Entry.kind = (samples.map Sample.kind).eraseDups
  /-- The size is the number of classes. -/
  size : profile.size = (samples.map Sample.kind).eraseDups.length
  /-- An entry has the sums of its class, stopped at the largest number. -/
  values : ∀ entry ∈ profile.entries, entry.values.map UInt64.toNat =
    profile.valueTypes.map fun metric =>
      min (sumAlike samples entry.frames entry.labels metric) (UInt64.size - 1)
  /-- Two samples share an entry exactly when they are alike. -/
  shared : ∀ a ∈ samples, ∀ b ∈ samples,
    profile.find? a.frames a.labels = profile.find? b.frames b.labels ↔
      a.frames = b.frames ∧ a.labels.Perm b.labels
  /-- A stack with labels in any order is found exactly when a sample of it was
  added. -/
  found : ∀ frames labels, (profile.find? frames labels).isSome ↔
    ∃ sample ∈ samples, sample.frames = frames ∧ sample.labels.Perm labels
  /-- What is found is the entry of that stack and those labels, with its sums. -/
  entry_found : ∀ frames labels entry, profile.find? frames labels = some entry →
    entry ∈ profile.entries ∧ entry.frames = frames ∧ entry.labels.Perm labels ∧
      entry.values.map UInt64.toNat = profile.valueTypes.map fun metric =>
        min (sumAlike samples frames labels metric) (UInt64.size - 1)
  /-- There is no total of a metric that is not a value type. -/
  total_none : ∀ metric, profile.total? metric = none ↔ metric ∉ profile.valueTypes
  /-- Any other total is the sum over all samples, stopped at the largest
  number. -/
  total_some : ∀ metric total, profile.total? metric = some total →
    total.toNat =
      min (samples.map fun sample => (sample.values.get metric).toNat).sum (UInt64.size - 1)

/-! ## Numbers and what they stand for -/

/-- A number given to an item leads back to it, as long as 32 bits suffice. -/
theorem filterMap_get?_numbers {α : Type} [BEq α] [Hashable α] [LawfulBEq α] {table : Table α}
    (hsize : table.toList.length < UInt32.size) {items : List α}
    (hmem : ∀ item ∈ items, item ∈ table.toList) :
    ((items.map table.toList.idxOf).map UInt32.ofNat).filterMap
      (fun number => table.get? number.toNat) = items := by
  have hget : ∀ item ∈ items,
      table.get? (UInt32.ofNat (table.toList.idxOf item)).toNat = some item := by
    intro item hitem
    have hlt := List.idxOf_lt_length_of_mem (hmem item hitem)
    rw [Table.get?_eq, UInt32.toNat_ofNat_of_lt' (lt_trans hlt hsize)]
    exact List.getElem?_idxOf (hmem item hitem)
  rw [List.map_map, List.filterMap_map]
  calc items.filterMap _ = items.filterMap some := List.filterMap_congr hget
    _ = items := List.filterMap_some

/-- Sorted numbers ascend. -/
theorem pairwise_mergeSort_numbers (numbers : List UInt32) :
    (numbers.mergeSort (· ≤ ·)).Pairwise (· ≤ ·) := by
  have htrans : ∀ a b c : UInt32, decide (a ≤ b) = true → decide (b ≤ c) = true →
      decide (a ≤ c) = true := fun a b c hab hbc =>
    decide_eq_true (UInt32.le_trans (of_decide_eq_true hab) (of_decide_eq_true hbc))
  have htotal : ∀ a b : UInt32, (decide (a ≤ b) || decide (b ≤ a)) = true := fun a b => by
    simpa only [Bool.or_eq_true, decide_eq_true_eq] using UInt32.le_total a b
  exact (List.pairwise_mergeSort htrans htotal numbers).imp of_decide_eq_true

/-- The sorted label numbers do not depend on the order of the labels. -/
theorem mergeSort_eq_of_perm {xs ys : List UInt32} (h : xs.Perm ys) :
    xs.mergeSort (· ≤ ·) = ys.mergeSort (· ≤ ·) := by
  have hperm : (xs.mergeSort (· ≤ ·)).Perm (ys.mergeSort (· ≤ ·)) :=
    (List.mergeSort_perm xs _).trans (h.trans (List.mergeSort_perm ys _).symm)
  exact hperm.eq_of_pairwise (fun _ _ _ _ => UInt32.le_antisymm)
    (pairwise_mergeSort_numbers xs) (pairwise_mergeSort_numbers ys)

/-- A sample whose frames and labels the profile has numbered. -/
def Knows (profile : Profile) (sample : Sample) : Prop :=
  (∀ frame ∈ sample.frames, frame ∈ profile.locations.toList) ∧
    ∀ label ∈ sample.labels, label ∈ profile.labels.toList

namespace Gathers

variable {profile : Profile} {samples : List Sample} (h : profile.Gathers samples)
include h

theorem knows {sample : Sample} (hmem : sample ∈ samples) : profile.Knows sample := by
  constructor
  · intro frame hf
    rw [h.locations_toList]
    exact mem_distinctFrames hmem hf
  · intro label hl
    rw [h.labels_toList]
    exact mem_distinctLabels hmem hl

/-- A sample like one that was added has known frames and labels. -/
theorem knows_of_kind_eq {sample other : Sample} (hmem : sample ∈ samples)
    (hkind : sample.kind = other.kind) : profile.Knows other := by
  obtain ⟨hframes, hlabels⟩ := Sample.kind_eq_iff.1 hkind
  obtain ⟨hf, hl⟩ := h.knows hmem
  exact ⟨fun frame hframe => hf frame (hframes ▸ hframe),
    fun label hlabel => hl label (hlabels.mem_iff.2 hlabel)⟩

section Room

variable (room : Numberable samples)
include room

/-- **A key is resolved to its stack.** -/
theorem entry_keyOf_frames {sample : Sample} (hk : profile.Knows sample) (sums : List UInt64) :
    (profile.entry (profile.keyOf sample) sums).frames = sample.frames :=
  filterMap_get?_numbers (by rw [h.locations_toList]; exact room.frames_lt) hk.1

/-- **And to its labels**, in some order. -/
theorem entry_keyOf_labels {sample : Sample} (hk : profile.Knows sample) (sums : List UInt64) :
    (profile.entry (profile.keyOf sample) sums).labels.Perm sample.labels := by
  have hperm := (List.mergeSort_perm
    ((sample.labels.map profile.labels.toList.idxOf).map UInt32.ofNat) (· ≤ ·)).filterMap
    fun number => profile.labels.get? number.toNat
  rwa [filterMap_get?_numbers (by rw [h.labels_toList]; exact room.labels_lt) hk.2] at hperm

theorem entry_keyOf_kind {sample : Sample} (hk : profile.Knows sample) (sums : List UInt64) :
    (profile.entry (profile.keyOf sample) sums).kind = sample.kind := by
  rw [Entry.kind, Sample.kind, h.entry_keyOf_frames room hk,
    Multiset.coe_eq_coe.2 (h.entry_keyOf_labels room hk sums)]

/-- **Keys tell samples apart exactly as far as they are not alike.** -/
theorem keyOf_eq_iff {a b : Sample} (ha : profile.Knows a) (hb : profile.Knows b) :
    profile.keyOf a = profile.keyOf b ↔ a.kind = b.kind := by
  constructor
  · intro hkey
    rw [← h.entry_keyOf_kind room ha [], hkey, h.entry_keyOf_kind room hb]
  · intro hkind
    obtain ⟨hframes, hlabels⟩ := Sample.kind_eq_iff.1 hkind
    have hsorted := mergeSort_eq_of_perm
      ((hlabels.map profile.labels.toList.idxOf).map UInt32.ofNat)
    rw [keyOf, keyOf, SampleKey.ofPositions, SampleKey.ofPositions, hframes, hsorted]

/-- The sums at a sample's key are those of the samples like it. -/
theorem toNat_sumsAt_keyOf {sample : Sample} (hk : profile.Knows sample) :
    (profile.sumsAt samples (profile.keyOf sample)).map UInt64.toNat =
      profile.valueTypes.map fun metric =>
        min (sumAlike samples sample.frames sample.labels metric) (UInt64.size - 1) := by
  rw [sumsAt, List.map_map]
  refine List.map_congr_left fun metric _ => ?_
  -- the samples with this key are those like it
  have hfilter : (samples.filter fun other => profile.keyOf other = profile.keyOf sample) =
      samples.filter fun other =>
        other.frames = sample.frames ∧ other.labels.Perm sample.labels := by
    refine List.filter_congr fun other hother => decide_eq_decide.2 ?_
    rw [h.keyOf_eq_iff room (h.knows hother) hk, Sample.kind_eq_iff]
  rw [Function.comp_apply, toNat_saturated, groupSum, hfilter, sumAlike]

end Room

/-! ## Entries -/

/-- The entries are those of the keys, with the sums at each. -/
theorem entries_eq :
    profile.entries = profile.keys.toList.map fun key =>
      profile.entry key (profile.sumsAt samples key) := by
  rw [entries, h.sums_toList]
  change List.zipWith profile.entry profile.keys.toList _ = _
  rw [List.zipWith_map_right, List.zipWith_self]

/-- An entry is that of a sample. -/
theorem mem_entries_iff {entry : Entry} :
    entry ∈ profile.entries ↔ ∃ sample ∈ samples,
      profile.entry (profile.keyOf sample) (profile.sumsAt samples (profile.keyOf sample)) =
        entry := by
  rw [h.entries_eq, h.keys_toList]
  simp [List.mem_eraseDups]

section Room

variable (room : Numberable samples)
include room

theorem entries_kind :
    profile.entries.map Entry.kind = (samples.map Sample.kind).eraseDups := by
  have hresolve : ∀ sample ∈ samples,
      (profile.entry (profile.keyOf sample) (profile.sumsAt samples (profile.keyOf sample))).kind =
        sample.kind :=
    fun sample hmem => h.entry_keyOf_kind room (h.knows hmem) _
  rw [h.entries_eq, h.keys_toList, List.map_map, ← eraseDups_map, List.map_map]
  · exact congrArg _ (List.map_congr_left hresolve)
  · -- keys that resolve alike are equal
    simp only [List.forall_mem_map, Function.comp_apply]
    intro a ha b hb hab
    rw [hresolve a ha, hresolve b hb] at hab
    exact (h.keyOf_eq_iff room (h.knows ha) (h.knows hb)).2 hab

/-! ## Looking up -/

omit room in
/-- A look-up asks for the key of a sample that it makes up; one with an unknown
frame or label fails. -/
theorem find?_eq_some_iff (query : Sample) (entry : Entry) :
    profile.find? query.frames query.labels = some entry ↔
      profile.Knows query ∧ profile.keyOf query ∈ profile.keys.toList ∧
        profile.entry (profile.keyOf query) (profile.sumsAt samples (profile.keyOf query)) =
          entry := by
  have hsum : ∀ key ∈ profile.keys.toList,
      profile.sums[profile.keys.toList.idxOf key]? = some (profile.sumsAt samples key) := by
    intro key hkey
    rw [← Array.getElem?_toList, h.sums_toList, List.getElem?_map, List.getElem?_idxOf hkey]
    rfl
  simp only [find?, Option.bind_eq_bind, Option.bind_eq_some_iff, Option.pure_def,
    Option.some.injEq, h.locations_exact.mapM_find?_eq_some_iff,
    h.labels_exact.mapM_find?_eq_some_iff, h.keys_exact.find?_eq_some_iff]
  constructor
  · rintro ⟨_, ⟨hf, rfl⟩, _, ⟨hl, rfl⟩, _, ⟨hkey, rfl⟩, sums, hsums, rfl⟩
    have hkey' : profile.keyOf query ∈ profile.keys.toList := hkey
    have : profile.sumsAt samples (profile.keyOf query) = sums :=
      Option.some.inj ((hsum _ hkey').symm.trans hsums)
    exact ⟨⟨hf, hl⟩, hkey', by rw [this]; rfl⟩
  · rintro ⟨⟨hf, hl⟩, hkey, rfl⟩
    exact ⟨_, ⟨hf, rfl⟩, _, ⟨hl, rfl⟩, _, ⟨hkey, rfl⟩, _, hsum _ hkey, rfl⟩

/-- **A look-up finds the samples like what is looked for.** -/
theorem find?_eq_some_iff_alike (query : Sample) (entry : Entry) :
    profile.find? query.frames query.labels = some entry ↔
      ∃ sample ∈ samples, sample.kind = query.kind ∧
        profile.entry (profile.keyOf sample) (profile.sumsAt samples (profile.keyOf sample)) =
          entry := by
  rw [h.find?_eq_some_iff, h.keys_toList, List.mem_eraseDups, List.mem_map]
  constructor
  · rintro ⟨hk, ⟨sample, hmem, hkey⟩, rfl⟩
    exact ⟨sample, hmem, (h.keyOf_eq_iff room (h.knows hmem) hk).1 hkey, by rw [hkey]⟩
  · rintro ⟨sample, hmem, hkind, rfl⟩
    have hk := h.knows_of_kind_eq hmem hkind
    have hkey := (h.keyOf_eq_iff room (h.knows hmem) hk).2 hkind
    exact ⟨hk, ⟨sample, hmem, hkey⟩, by rw [hkey]⟩

theorem find?_eq_iff {a b : Sample} (ha : a ∈ samples) (hb : b ∈ samples) :
    profile.find? a.frames a.labels = profile.find? b.frames b.labels ↔ a.kind = b.kind := by
  have hself : ∀ sample ∈ samples, profile.find? sample.frames sample.labels =
      some (profile.entry (profile.keyOf sample)
        (profile.sumsAt samples (profile.keyOf sample))) :=
    fun sample hmem => (h.find?_eq_some_iff_alike room _ _).2 ⟨sample, hmem, rfl, rfl⟩
  rw [hself a ha, hself b hb, Option.some.injEq]
  constructor
  · intro hentry
    rw [← h.entry_keyOf_kind room (h.knows ha), hentry, h.entry_keyOf_kind room (h.knows hb)]
  · intro hkind
    rw [(h.keyOf_eq_iff room (h.knows ha) (h.knows hb)).2 hkind]

end Room

/-! ## Totals -/

omit h in
theorem total?_eq_none_iff {metric : Metric} :
    profile.total? metric = none ↔ metric ∉ profile.valueTypes := by
  have hposition : profile.position? metric = none ↔ metric ∉ profile.valueTypes := by
    simp only [position?, List.findIdx?_eq_none_iff, decide_eq_false_iff_not]
    exact ⟨fun hall hmem => hall metric hmem rfl, fun hnot other hmem heq => hnot (heq ▸ hmem)⟩
  rw [← hposition, total?]
  cases profile.position? metric <;> simp

/-- The total of a value type is the sum over all samples. -/
theorem total?_eq_some {metric : Metric} {total : UInt64}
    (htotal : profile.total? metric = some total) :
    total = saturated (samples.map fun sample => (sample.values.get metric).toNat).sum := by
  simp only [total?, position?, Option.bind_eq_bind, Option.bind_eq_some_iff, Option.pure_def,
    Option.some.injEq] at htotal
  obtain ⟨position, hposition, rfl⟩ := htotal
  obtain ⟨hlt, hmetric, -⟩ := List.findIdx?_eq_some_iff_getElem.1 hposition
  have hat : ∀ key, (profile.sumsAt samples key).getD position 0 =
      saturated (groupSum profile.keyOf (fun sample => (sample.values.get metric).toNat)
        samples key) := by
    intro key
    rw [← of_decide_eq_true hmetric]
    simp [sumsAt, List.getD, hlt]
  have hfold : profile.sums.foldl (fun sum sums => addSaturating sum (sums.getD position 0)) 0 =
      ((profile.keys.toList.map (groupSum profile.keyOf
        (fun sample => (sample.values.get metric).toNat) samples)).map saturated).foldl
          addSaturating (saturated 0) := by
    rw [← Array.foldl_toList, h.sums_toList, List.foldl_map, List.foldl_map, List.foldl_map]
    simp only [hat]
    rfl
  rw [hfold, foldl_addSaturating, h.keys_toList, sum_groupSum, Nat.zero_add]

section Room

variable (room : Numberable samples)
include room

/-- The entry of a sample has the sums of the samples like it. -/
theorem entry_keyOf_values {sample : Sample} (hmem : sample ∈ samples) {labels : List Label}
    (hlabels : labels.Perm sample.labels) :
    (profile.entry (profile.keyOf sample)
        (profile.sumsAt samples (profile.keyOf sample))).values.map UInt64.toNat =
      profile.valueTypes.map fun metric =>
        min (sumAlike samples sample.frames labels metric) (UInt64.size - 1) := by
  simp only [sumAlike_congr hlabels]
  exact h.toNat_sumsAt_keyOf room (h.knows hmem)

/-- **What has been gathered is the aggregation of the samples.** -/
theorem aggregates : profile.Aggregates samples where
  kinds := h.entries_kind room
  size := by
    rw [← h.entries_kind room, List.length_map, h.entries_eq, List.length_map, size,
      ← Array.length_toList, h.sums_toList, List.length_map]
  values := by
    intro entry hentry
    obtain ⟨sample, hmem, rfl⟩ := h.mem_entries_iff.1 hentry
    rw [h.entry_keyOf_frames room (h.knows hmem)]
    exact h.entry_keyOf_values room hmem (h.entry_keyOf_labels room (h.knows hmem) _)
  shared := fun a ha b hb => (h.find?_eq_iff room ha hb).trans Sample.kind_eq_iff
  found := by
    intro frames labels
    have hfind := h.find?_eq_some_iff_alike room ⟨frames, labels, {}⟩
    simp only [Option.isSome_iff_exists]
    constructor
    · rintro ⟨entry, hentry⟩
      obtain ⟨sample, hmem, hkind, -⟩ := (hfind entry).1 hentry
      exact ⟨sample, hmem, Sample.kind_eq_iff.1 hkind⟩
    · rintro ⟨sample, hmem, halike⟩
      exact ⟨_, (hfind _).2 ⟨sample, hmem, Sample.kind_eq_iff.2 halike, rfl⟩⟩
  entry_found := by
    intro frames labels entry hentry
    obtain ⟨sample, hmem, hkind, rfl⟩ :=
      (h.find?_eq_some_iff_alike room ⟨frames, labels, {}⟩ entry).1 hentry
    obtain ⟨rfl, hlabels⟩ := Sample.kind_eq_iff.1 hkind
    have hk := h.knows hmem
    exact ⟨h.mem_entries_iff.2 ⟨sample, hmem, rfl⟩, h.entry_keyOf_frames room hk _,
      (h.entry_keyOf_labels room hk _).trans hlabels, h.entry_keyOf_values room hmem hlabels.symm⟩
  total_none := fun _ => total?_eq_none_iff
  total_some := by
    intro metric total htotal
    rw [h.total?_eq_some htotal, toNat_saturated]

end Room

end Gathers

/-- **What a profile comprises**: the samples that a new profile has been given, in order.
They can all be read back. -/
structure Comprises (profile : Profile) (valueTypes : List Metric) (start : Instant)
    (samples : List Sample) : Prop where
  eq_gathered : profile = gathered valueTypes start samples
  valueTypes_eq : profile.valueTypes = valueTypes
  startTime_eq : profile.startTime = start
  /-- It is empty only if there are none. -/
  isEmpty_iff : profile.isEmpty = true ↔ samples = []
  /-- Its entries, look-ups and totals are theirs. -/
  aggregates : Numberable samples → profile.Aggregates samples

/-- **It is enough that they have been added.** -/
theorem comprises_of_eq {profile : Profile} {valueTypes : List Metric} {start : Instant}
    {samples : List Sample} (h : profile = gathered valueTypes start samples) :
    profile.Comprises valueTypes start samples where
  eq_gathered := h
  valueTypes_eq := h ▸ valueTypes_gathered ..
  startTime_eq := h ▸ startTime_gathered ..
  isEmpty_iff := h ▸ isEmpty_gathered_iff ..
  aggregates := fun room => h ▸ (gathers_gathered ..).aggregates room

/-- **A profile is the aggregation of the samples added since its last reset**,
after any history of calls. A reset hands out just that, and leaves a new
profile. -/
theorem aggregates_after (valueTypes : List Metric) (start : Instant) (calls : List StoreCall)
    (room : Numberable (pending calls)) :
    (after valueTypes start calls).Aggregates (pending calls) ∧
      (after valueTypes start calls).valueTypes = valueTypes ∧
      (after valueTypes start calls).startTime = lastStart start calls ∧
      ∀ startTime, (after valueTypes start calls).reset startTime =
        (after valueTypes start calls, new valueTypes startTime) := by
  rw [after_eq_gathered]
  refine ⟨(gathers_gathered _ _ _).aggregates room, valueTypes_gathered .., startTime_gathered ..,
    fun startTime => ?_⟩
  rw [reset, valueTypes_gathered]

/-- A sample of a recursive function. -/
def recursive (labels : List Label) (cpuTime : UInt64) : Sample :=
  ⟨[{ name := "f", filename := "app" }, { name := "f", filename := "app" }], labels, { cpuTime }⟩

/-- A history with a reset, after which the same labels come in both orders. -/
def bothOrders : List StoreCall :=
  [.add (recursive [] 1), .reset .epoch, .add (recursive [.str "a" "x", .num "" 2, .num "" 2] 5),
    .setStartTime .epoch, .add (recursive [.num "" 2, .str "a" "x", .num "" 2] 3)]

theorem size_after_bothOrders :
    Numberable (pending bothOrders) ∧ (after [.cpuTime] .epoch bothOrders).size = 1 := by
  have room : Numberable (pending bothOrders) := ⟨by decide, by decide⟩
  have haggregates := (aggregates_after [.cpuTime] .epoch bothOrders room).1
  exact ⟨room, haggregates.size.trans (by decide)⟩

end Profile

end StackProfiler
