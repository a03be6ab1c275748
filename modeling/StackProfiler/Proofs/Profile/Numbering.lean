import StackProfiler.Proofs.Profile.Aggregation
/-!
# Profiles — numbers and entries

A profile hands out numbers and never takes one back before it is reset: frames, labels
and keys are numbered as they first come, the indexes are the inverses of these
numberings, and an entry keeps the numbers it was made with (`Numbers`). So whatever is
called after a sample was added, the entry it was added to stands for it
(`Entry.StandsFor`): it has the sample's stack, and its labels in the order in which the
profile has first seen them, which is not the order of any sample.
-/

namespace StackProfiler

/-! ## What stays between resets -/

/-- **Without a reset nothing is forgotten**: the samples of later calls come behind
those of earlier ones. -/
theorem pending_append {later : List StoreCall} (hkept : ∀ startTime, .reset startTime ∉ later)
    (earlier : List StoreCall) : pending (earlier ++ later) = pending earlier ++ pending later := by
  induction later using List.reverseRecOn with
  | nil => rw [List.append_nil, show pending [] = [] from rfl, List.append_nil]
  | append_singleton later call ih =>
    have hbefore : ∀ startTime, StoreCall.reset startTime ∉ later := fun startTime hmem =>
      hkept startTime (List.mem_append_left _ hmem)
    have hstep : ∀ calls : List StoreCall,
        pending (calls ++ [call]) = call.pendingAfter (pending calls) :=
      fun calls => List.foldl_concat ..
    rw [← List.append_assoc, hstep, hstep, ih hbefore]
    cases call with
    | add sample => exact List.append_assoc ..
    | setStartTime startTime => rfl
    | reset startTime =>
      exact absurd (List.mem_append_right _ (List.mem_singleton_self _)) (hkept startTime)

/-- **Every sample that waits was added by a call** after the last reset. -/
theorem exists_add_of_pending {calls : List StoreCall} {before rest : List Sample}
    {sample : Sample} (h : pending calls = before ++ sample :: rest) :
    ∃ earlier later, calls = earlier ++ .add sample :: later ∧
      (∀ startTime, .reset startTime ∉ later) ∧ pending earlier = before := by
  induction calls using List.reverseRecOn generalizing rest with
  | nil => simp [pending] at h
  | append_singleton calls call ih =>
    have hstep : pending (calls ++ [call]) = call.pendingAfter (pending calls) :=
      List.foldl_concat ..
    rw [hstep] at h
    cases call with
    | setStartTime startTime =>
      obtain ⟨earlier, later, rfl, hkept, hbefore⟩ := ih h
      refine ⟨earlier, later ++ [.setStartTime startTime], by simp, fun time hmem => ?_, hbefore⟩
      rcases List.mem_append.1 hmem with hmem | hmem
      · exact hkept time hmem
      · cases List.mem_singleton.1 hmem
    | reset startTime => simp [StoreCall.pendingAfter] at h
    | add last =>
      change pending calls ++ [last] = before ++ sample :: rest at h
      -- it is the last call that has added it, or an earlier one
      cases rest using List.reverseRecOn with
      | nil =>
        obtain ⟨hbefore, hlast⟩ := List.append_inj' h rfl
        obtain rfl : last = sample := List.head_eq_of_cons_eq hlast
        exact ⟨calls, [], rfl, fun _ => List.not_mem_nil, hbefore⟩
      | append_singleton rest last' _ =>
        rw [← List.cons_append, ← List.append_assoc] at h
        obtain ⟨hcalls, -⟩ := List.append_inj' h rfl
        obtain ⟨earlier, later, rfl, hkept, hbefore⟩ := ih hcalls
        refine ⟨earlier, later ++ [.add last], by simp, fun time hmem => ?_, hbefore⟩
        rcases List.mem_append.1 hmem with hmem | hmem
        · exact hkept time hmem
        · cases List.mem_singleton.1 hmem

/-! ## Entries and samples -/

/-- **An entry that stands for a sample**, in a profile that has first seen the labels in
the given order. -/
structure Entry.StandsFor (entry : Entry) (order : List Label) (sample : Sample) : Prop where
  frames : entry.frames = sample.frames
  labels : entry.labels.Perm sample.labels
  /-- The label that the profile has seen first comes first. -/
  ordered : entry.labels.Pairwise fun a b => order.idxOf a ≤ order.idxOf b
  /-- However the sample gives its labels, in that order they are those of the entry. -/
  eq_of_ordered : ∀ labels : List Label, labels.Perm sample.labels →
    labels.Pairwise (fun a b => order.idxOf a ≤ order.idxOf b) → labels = entry.labels

namespace Profile

/-- The position of the entry to which a sample is added. -/
def entryFor (profile : Profile) (sample : Sample) : Nat :=
  (profile.keys.intern (.ofPositions (profile.locations.internAll sample.frames).1
    (profile.labels.internAll sample.labels).1)).1

/-- **How a profile numbers** what it has gathered. -/
structure Numbers (profile : Profile) (samples : List Sample) : Prop where
  /-- The locations are the frames of the samples, each where it first comes. -/
  locations_toList : profile.locations.toList = (samples.flatMap Sample.frames).eraseDups
  locations_nodup : profile.locations.toList.Nodup
  /-- The index of the locations is the inverse of their list. -/
  location_index : ∀ frame number, profile.locations.find? frame = some number ↔
    profile.locations.toList[number]? = some frame
  /-- So are the labels. -/
  labels_toList : profile.labels.toList = (samples.flatMap Sample.labels).eraseDups
  labels_nodup : profile.labels.toList.Nodup
  label_index : ∀ label number, profile.labels.find? label = some number ↔
    profile.labels.toList[number]? = some label
  /-- No two entries have one key, and the index of the keys finds the entry. -/
  keys_nodup : profile.keys.toList.Nodup
  entry_index : ∀ key position, profile.keys.find? key = some position ↔
    profile.keys.toList[position]? = some key
  /-- Each entry has a key, and is made of what its numbers stand for. -/
  keys_length : profile.keys.toList.length = profile.size
  entry_key : ∀ (position : Nat) key, profile.keys.toList[position]? = some key →
    ∃ entry, profile.entries[position]? = some entry ∧ entry.stack = key.stack ∧
      key.stack.map (fun number => profile.locations.toList[number.toNat]?) =
        entry.frames.map some ∧
      key.labels.map (fun number => profile.labels.toList[number.toNat]?) =
        entry.labels.map some
  /-- No number in a key is out of range. -/
  stack_lt : ∀ key ∈ profile.keys.toList, ∀ number ∈ key.stack,
    number.toNat < profile.locations.toList.length
  labels_lt : ∀ key ∈ profile.keys.toList, ∀ number ∈ key.labels,
    number.toNat < profile.labels.toList.length
  values_length : ∀ entry ∈ profile.entries, entry.values.length = profile.valueTypes.length

/-! ## Numbers in range -/

/-- A number given to an item of a table is in range, as long as 32 bits suffice. -/
theorem toNat_ofNat_idxOf_lt {α : Type} [BEq α] [LawfulBEq α] {items : List α}
    (hsize : items.length < UInt32.size) {item : α} (hmem : item ∈ items) :
    (UInt32.ofNat (items.idxOf item)).toNat = items.idxOf item ∧
      items.idxOf item < items.length := by
  have hlt : items.idxOf item < items.length := List.idxOf_lt_length_of_mem hmem
  exact ⟨UInt32.toNat_ofNat_of_lt' (lt_trans hlt hsize), hlt⟩

/-- Numbers in range all stand for something. -/
theorem map_getElem?_numbers {α : Type} {items : List α} {numbers : List UInt32}
    (hlt : ∀ number ∈ numbers, number.toNat < items.length) :
    numbers.map (fun number => items[number.toNat]?) =
      (numbers.filterMap fun number => items[number.toNat]?).map some := by
  induction numbers with
  | nil => rfl
  | cons number numbers ih =>
    obtain ⟨hnumber, hrest⟩ := List.forall_mem_cons.1 hlt
    have hget : items[number.toNat]? = some items[number.toNat] := List.getElem?_eq_getElem hnumber
    simp only [List.map_cons, ih hrest, List.filterMap_cons, hget]

namespace Gathers

variable {profile : Profile} {samples : List Sample} (h : profile.Gathers samples)
include h

/-- A key is that of a sample. -/
theorem mem_keys_iff {key : SampleKey} :
    key ∈ profile.keys.toList ↔ ∃ sample ∈ samples, profile.keyOf sample = key := by
  rw [h.keys_toList, List.mem_eraseDups, List.mem_map]

/-- The entry of a key stands where the key does. -/
theorem getElem?_entries {position : Nat} {key : SampleKey}
    (hkey : profile.keys.toList[position]? = some key) :
    profile.entries[position]? = some (profile.entry key (profile.sumsAt samples key)) := by
  rw [h.entries_eq, List.getElem?_map, hkey]
  rfl

section Room

variable (room : Numberable samples)
include room

/-- **No number of a stack is out of range.** -/
theorem toNat_stack_lt {key : SampleKey} (hkey : key ∈ profile.keys.toList) :
    ∀ number ∈ key.stack, number.toNat < profile.locations.toList.length := by
  obtain ⟨sample, hmem, rfl⟩ := h.mem_keys_iff.1 hkey
  intro number hnumber
  obtain ⟨position, hposition, rfl⟩ := List.mem_map.1 hnumber
  obtain ⟨frame, hframe, rfl⟩ := List.mem_map.1 hposition
  have hsize : profile.locations.toList.length < UInt32.size := by
    rw [h.locations_toList]
    exact room.frames_lt
  obtain ⟨heq, hlt⟩ := toNat_ofNat_idxOf_lt hsize ((h.knows hmem).1 frame hframe)
  rwa [heq]

/-- **And no number of a label.** -/
theorem toNat_labels_lt {key : SampleKey} (hkey : key ∈ profile.keys.toList) :
    ∀ number ∈ key.labels, number.toNat < profile.labels.toList.length := by
  obtain ⟨sample, hmem, rfl⟩ := h.mem_keys_iff.1 hkey
  intro number hnumber
  obtain ⟨position, hposition, rfl⟩ := List.mem_map.1 (List.mem_mergeSort.1 hnumber)
  obtain ⟨label, hlabel, rfl⟩ := List.mem_map.1 hposition
  have hsize : profile.labels.toList.length < UInt32.size := by
    rw [h.labels_toList]
    exact room.labels_lt
  obtain ⟨heq, hlt⟩ := toNat_ofNat_idxOf_lt hsize ((h.knows hmem).2 label hlabel)
  rwa [heq]

end Room

/-- The labels that are resolved of sorted numbers stand in the order of the profile. -/
theorem pairwise_labels_entry {sample : Sample} (sums : List UInt64) :
    (profile.entry (profile.keyOf sample) sums).labels.Pairwise fun a b =>
      profile.labels.toList.idxOf a ≤ profile.labels.toList.idxOf b := by
  have hposition : ∀ {number : UInt32} {label : Label},
      profile.labels.get? number.toNat = some label →
        profile.labels.toList.idxOf label = number.toNat := by
    intro number label hget
    rw [Table.get?_eq] at hget
    obtain ⟨hlt, rfl⟩ := List.getElem?_eq_some_iff.1 hget
    exact h.labels_exact.nodup.idxOf_getElem _ hlt
  refine List.Pairwise.filterMap _ (fun a b hab label hlabel label' hlabel' => ?_)
    (pairwise_mergeSort_numbers _)
  rw [hposition hlabel, hposition hlabel']
  exact hab

/-- **The entry of a sample's key stands for the sample.** -/
theorem standsFor (room : Numberable samples) {sample : Sample} (hmem : sample ∈ samples) :
    (profile.entry (profile.keyOf sample) (profile.sumsAt samples (profile.keyOf sample))).StandsFor
      profile.labels.toList sample where
  frames := h.entry_keyOf_frames room (h.knows hmem) _
  labels := h.entry_keyOf_labels room (h.knows hmem) _
  ordered := h.pairwise_labels_entry _
  eq_of_ordered := by
    intro labels hperm hordered
    have hlabels := h.entry_keyOf_labels room (h.knows hmem)
      (profile.sumsAt samples (profile.keyOf sample))
    refine (hperm.trans hlabels.symm).eq_of_pairwise (fun a b ha _ hab hba => ?_) hordered
      (h.pairwise_labels_entry _)
    -- labels at one position of the profile are one
    have hknown : a ∈ profile.labels.toList := (h.knows hmem).2 a (hperm.subset ha)
    exact (List.idxOf_inj hknown).1 (Nat.le_antisymm hab hba)

/-- **What has been gathered is numbered** as its tables say. -/
theorem numbers (room : Numberable samples) : profile.Numbers samples where
  locations_toList := h.locations_toList
  locations_nodup := h.locations_exact.nodup
  location_index := by
    intro frame number
    rw [h.locations_exact, Table.get?_eq]
  labels_toList := h.labels_toList
  labels_nodup := h.labels_exact.nodup
  label_index := by
    intro label number
    rw [h.labels_exact, Table.get?_eq]
  keys_nodup := h.keys_exact.nodup
  entry_index := by
    intro key position
    rw [h.keys_exact, Table.get?_eq]
  keys_length := by
    rw [size, ← Array.length_toList, h.sums_toList, List.length_map]
  entry_key := by
    intro position key hkey
    have hmem := List.mem_of_getElem? hkey
    refine ⟨_, h.getElem?_entries hkey, rfl, ?_, ?_⟩
    · simpa only [Profile.entry, Table.get?_eq] using
        map_getElem?_numbers (h.toNat_stack_lt room hmem)
    · simpa only [Profile.entry, Table.get?_eq] using
        map_getElem?_numbers (h.toNat_labels_lt room hmem)
  stack_lt := fun _ => h.toNat_stack_lt room
  labels_lt := fun _ => h.toNat_labels_lt room
  values_length := by
    intro entry hentry
    obtain ⟨sample, -, rfl⟩ := h.mem_entries_iff.1 hentry
    exact List.length_map _

/-! ## The entry of a sample -/

/-- The entry to which a sample is added is that of its key. -/
theorem entryFor_eq (sample : Sample) :
    profile.entryFor sample =
      (profile.add sample).keys.toList.idxOf ((profile.add sample).keyOf sample) := by
  rw [entryFor, h.keys_exact.intern_position, ← h.add_keyOf_self]
  rfl

/-- **An entry keeps its place**, whatever is added. -/
theorem idxOf_keyOf_add {sample : Sample} (hmem : sample ∈ samples) (other : Sample) :
    (profile.add other).keys.toList.idxOf ((profile.add other).keyOf sample) =
      profile.keys.toList.idxOf (profile.keyOf sample) := by
  have hkey : profile.keyOf sample ∈ samples.map profile.keyOf := List.mem_map_of_mem hmem
  rw [h.add_keyOf_of_mem hmem, h.add_keys_toList, h.map_keyOf_add, idxOf_eraseDups_append hkey,
    h.keys_toList]

/-- **The other entries keep their sums** when a sample is added. -/
theorem getElem?_sums_add_of_ne (sample : Sample) {position : Nat}
    (hne : position ≠ profile.entryFor sample) :
    (profile.add sample).sums[position]? = profile.sums[position]? := by
  have hsize : profile.keys.toList.length = profile.sums.size := by
    rw [← Array.length_toList, h.sums_toList, List.length_map]
  rw [sums_add]
  rw [entryFor, Table.intern] at hne
  cases hfind : profile.keys.find? (.ofPositions (profile.locations.internAll sample.frames).1
      (profile.labels.internAll sample.labels).1) with
  | some entry =>
    rw [hfind] at hne
    rw [Option.elim_some, Array.getElem?_modify, if_neg (Ne.symm hne)]
  | none =>
    rw [hfind, Table.size_eq, hsize] at hne
    rw [Option.elim_none, Array.getElem?_push, if_neg hne]

end Gathers

/-- **The entry a sample is added to stays its entry**, whatever is added behind it. -/
theorem idxOf_keyOf_gathered (valueTypes : List Metric) (start : Instant)
    (before rest : List Sample) (sample : Sample) :
    let profile := gathered valueTypes start (before ++ sample :: rest)
    profile.keys.toList.idxOf (profile.keyOf sample) =
      (gathered valueTypes start before).entryFor sample := by
  induction rest using List.reverseRecOn with
  | nil =>
    have hgathers := gathers_gathered valueTypes start before
    dsimp only
    rw [gathered_concat, hgathers.entryFor_eq]
  | append_singleton rest other ih =>
    have hgathers := gathers_gathered valueTypes start (before ++ sample :: rest)
    have hmem : sample ∈ before ++ sample :: rest :=
      List.mem_append_right _ (List.mem_cons_self ..)
    dsimp only at ih ⊢
    rw [← List.cons_append, ← List.append_assoc, gathered_concat,
      hgathers.idxOf_keyOf_add hmem, ih]

/-- Where a sample is added does not depend on when the profile starts. -/
theorem entryFor_after (valueTypes : List Metric) (start startTime : Instant)
    (calls : List StoreCall) (sample : Sample) :
    (after valueTypes start calls).entryFor sample =
      (gathered valueTypes startTime (pending calls)).entryFor sample := by
  rw [after_eq_gathered,
    ← setStartTime_gathered valueTypes (lastStart start calls) startTime (pending calls)]
  rfl

/-! ## Histories -/

/-- **Where a history of calls puts its samples.** -/
structure Places (valueTypes : List Metric) (start : Instant) (calls : List StoreCall) : Prop where
  numbers : (after valueTypes start calls).Numbers (pending calls)
  valueTypes_eq : (after valueTypes start calls).valueTypes = valueTypes
  /-- Adding a sample changes the sums of its entry alone. -/
  apart : ∀ earlier sample position,
    position ≠ (after valueTypes start earlier).entryFor sample →
      (after valueTypes start (earlier ++ [.add sample])).sums[position]? =
        (after valueTypes start earlier).sums[position]?
  /-- The entry to which a sample was added stands for it until the next reset. -/
  stands : ∀ earlier sample later, calls = earlier ++ .add sample :: later →
    (∀ startTime, .reset startTime ∉ later) →
    ∃ entry, (after valueTypes start calls).entries[
        (after valueTypes start earlier).entryFor sample]? = some entry ∧
      entry.StandsFor ((pending calls).flatMap Sample.labels).eraseDups sample
  /-- Every entry is one to which a sample was added since the last reset. -/
  made : ∀ (position : Nat) entry,
    (after valueTypes start calls).entries[position]? = some entry →
    ∃ earlier sample later, calls = earlier ++ .add sample :: later ∧
      (∀ startTime, .reset startTime ∉ later) ∧
      (after valueTypes start earlier).entryFor sample = position

/-- The entry of a sample in what was gathered with it. -/
theorem exists_entry_of_gathered (valueTypes : List Metric) (start : Instant)
    {before rest : List Sample} {sample : Sample} (room : Numberable (before ++ sample :: rest)) :
    ∃ entry, (gathered valueTypes start (before ++ sample :: rest)).entries[
        (gathered valueTypes start before).entryFor sample]? = some entry ∧
      entry.StandsFor ((before ++ sample :: rest).flatMap Sample.labels).eraseDups sample := by
  have hgathers := gathers_gathered valueTypes start (before ++ sample :: rest)
  have hmem : sample ∈ before ++ sample :: rest := List.mem_append_right _ (List.mem_cons_self ..)
  have hkey := List.getElem?_idxOf (hgathers.mem_keys_iff.2 ⟨sample, hmem, rfl⟩)
  rw [idxOf_keyOf_gathered] at hkey
  have hstands := hgathers.standsFor room hmem
  rw [hgathers.labels_toList] at hstands
  exact ⟨_, hgathers.getElem?_entries hkey, hstands⟩

/-- **Numbers are handed out once and entries keep theirs**, after any history of calls. -/
theorem places_after (valueTypes : List Metric) (start : Instant) (calls : List StoreCall)
    (room : Numberable (pending calls)) : Places valueTypes start calls where
  numbers := by
    rw [after_eq_gathered]
    exact (gathers_gathered _ _ _).numbers room
  valueTypes_eq := by
    rw [after_eq_gathered, valueTypes_gathered]
  apart := by
    intro earlier sample position hne
    have hstep : after valueTypes start (earlier ++ [.add sample]) =
        (after valueTypes start earlier).add sample := List.foldl_concat ..
    rw [hstep]
    rw [after_eq_gathered] at hne ⊢
    exact (gathers_gathered _ _ _).getElem?_sums_add_of_ne sample hne
  stands := by
    intro earlier sample later hcalls hkept
    have hpending : pending calls = pending earlier ++ sample :: pending later := by
      rw [hcalls, List.append_cons, pending_append hkept, pending, List.foldl_concat,
        List.append_cons]
      rfl
    rw [hpending] at room
    rw [after_eq_gathered, entryFor_after _ _ (lastStart start calls), hpending]
    exact exists_entry_of_gathered _ _ room
  made := by
    intro position entry hentry
    rw [after_eq_gathered] at hentry
    have hgathers := gathers_gathered valueTypes (lastStart start calls) (pending calls)
    -- the key that stands there is that of a sample, which some call has added
    rw [hgathers.entries_eq, List.getElem?_map] at hentry
    obtain ⟨key, hkey, -⟩ := Option.map_eq_some_iff.1 hentry
    obtain ⟨sample, hmem, rfl⟩ := hgathers.mem_keys_iff.1 (List.mem_of_getElem? hkey)
    obtain ⟨before, rest, hsplit⟩ := List.append_of_mem hmem
    obtain ⟨earlier, later, hcalls, hkept, rfl⟩ := exists_add_of_pending hsplit
    refine ⟨earlier, sample, later, hcalls, hkept, ?_⟩
    obtain ⟨hlt, hget⟩ := List.getElem?_eq_some_iff.1 hkey
    have hposition := hgathers.keys_exact.nodup.idxOf_getElem position hlt
    rw [hget] at hposition
    rw [entryFor_after _ _ (lastStart start calls), ← hposition]
    have hplace := idxOf_keyOf_gathered valueTypes (lastStart start calls) (pending earlier) rest
      sample
    rw [hsplit]
    exact hplace.symm

/-- The labels of a sample in another order than the profile has first seen them. -/
def crossed : Sample := recursive [.str "a" "x", .str "b" "y"] 5

/-- A history with such a sample behind a reset. -/
def crossedAfterReset : List StoreCall :=
  [.add crossed, .reset .epoch, .add (recursive [.str "b" "y"] 2), .add crossed]

-- its labels stand in the order of the profile, which the reset has begun anew
theorem places_crossedAfterReset :
    Numberable (pending crossedAfterReset) ∧
      (after [.cpuTime] .epoch crossedAfterReset).labels.toList =
        [.str "b" "y", .str "a" "x"] ∧
      ∃ (position : Nat) (entry : Entry),
        (after [.cpuTime] .epoch crossedAfterReset).entries[position]? = some entry ∧
          entry.frames = crossed.frames ∧ entry.labels = [.str "b" "y", .str "a" "x"] := by
  have room : Numberable (pending crossedAfterReset) := ⟨by decide, by decide⟩
  have hplaces := places_after [.cpuTime] .epoch crossedAfterReset room
  obtain ⟨entry, hentry, hstands⟩ := hplaces.stands
    [.add crossed, .reset .epoch, .add (recursive [.str "b" "y"] 2)] crossed [] rfl
    (fun _ => List.not_mem_nil)
  have hlabels := hstands.eq_of_ordered [.str "b" "y", .str "a" "x"] (by decide) (by decide)
  exact ⟨room, hplaces.numbers.labels_toList.trans (by decide), _, entry, hentry,
    hstands.frames, hlabels.symm⟩

end Profile

end StackProfiler
