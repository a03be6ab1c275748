import Mathlib.Data.List.Forall2
import StackProfiler.Proofs.Profile.Aggregation
import StackProfiler.Proofs.Wire.Tables
/-!
# Encoding — nothing is lost

From an encoded profile the frames, the labels and the values of every entry can
be read again, and the times are exact (`Profile.Restores`). So it is with the
encoding of whatever a profile has gathered.
-/

namespace StackProfiler

namespace Wire

/-! ## Reading an encoded profile -/

/-- The frame that a number in an encoded profile stands for. -/
def Profile.frame? (profile : Profile) (number : UInt64) : Option Frame := do
  let location ← profile.locations[number.toNat]?
  let function ← profile.functions[location.functionIndex.toNat]?
  return ⟨function.name, function.filename, location.lineno, function.implementation = .native⟩

/-- The label that an encoded label stands for; none unless it has either a text
or a number. -/
def Label.read? : Label → Option StackProfiler.Label
  | ⟨key, some text, none⟩ => some ⟨key, .str text⟩
  | ⟨key, none, some number⟩ => some ⟨key, .num number⟩
  | _ => none

/-- An encoded sample from which an entry can be read. -/
structure Profile.RestoresEntry (profile : Profile) (sample : Sample) (entry : Entry) :
    Prop where
  stack_length : sample.stack.length = entry.stack.length
  frames : sample.stack.mapM profile.frame? = some entry.frames
  labels : sample.labels.mapM Label.read? = some entry.labels
  values : sample.values = entry.values

/-- **An encoded profile from which all can be read** that was flushed. -/
structure Profile.Restores (profile : Profile) (flushed : Flushed StackProfiler.Profile) :
    Prop where
  stack_lt : ∀ sample ∈ profile.samples, ∀ number ∈ sample.stack,
    number.toNat < profile.locations.length
  function_lt : ∀ location ∈ profile.locations,
    location.functionIndex.toNat < profile.functions.length
  values_length : ∀ sample ∈ profile.samples, sample.values.length = profile.valueTypes.length
  /-- One sample for each entry, in order. -/
  samples : List.Forall₂ profile.RestoresEntry profile.samples flushed.profile.entries
  types : profile.valueTypes.map ValueType.type = flushed.profile.valueTypes.map Metric.name
  units : profile.valueTypes.map ValueType.unit = flushed.profile.valueTypes.map Metric.unit
  /-- The start in nanoseconds from the epoch, and 0 if it is before it. -/
  start : profile.startTimestampNs.toNat = flushed.start.nanos.toNat
  /-- The nanoseconds between start and finish, and 0 if the finish is earlier. -/
  duration : profile.durationNs.toNat = (flushed.finish.nanos - flushed.start.nanos).toNat

/-! ## Labels and times -/

/-- What can be read item by item can be read from the list. -/
theorem mapM_map_eq_some {α β : Type} {f : α → β} {g : β → Option α} {l : List α}
    (h : ∀ x ∈ l, g (f x) = some x) : (l.map f).mapM g = some l := by
  induction l with
  | nil => rfl
  | cons x l ih =>
    obtain ⟨hx, hl⟩ := List.forall_mem_cons.1 h
    rw [List.map_cons, List.mapM_cons, hx, ih hl]
    rfl

theorem Label.read?_ofLabel (label : StackProfiler.Label) :
    (Label.ofLabel label).read? = some label := by
  obtain ⟨key, value⟩ := label
  cases value <;> rfl

/-- **Times are exact**: the largest fit 128 bits. -/
theorem toNat_nanosSince (t earlier : Instant) :
    (nanosSince t earlier).toNat = (t.nanos - earlier.nanos).toNat := by
  have hnanos : ((t.since earlier).getD .zero).nanos = (t.nanos - earlier.nanos).toNat := by
    rw [Instant.since]
    split
    · rfl
    · show 0 = _
      omega
  have hlt := ((t.since earlier).getD .zero).nanos_lt
  rw [nanosSince, BitVec.toNat_ofNat, Nat.mod_eq_of_lt (by omega), hnanos]

/-! ## Stacks -/

/-- **A frame's number stands for the frame.** -/
theorem frame?_numberOf {profile : Profile} {tables : Tables} {frames : List Frame}
    (h : tables.Encodes frames) (hlt : frames.length < UInt64.size)
    (hlocations : profile.locations = tables.locations.toList)
    (hfunctions : profile.functions = tables.functions.toList) {frame : Frame}
    (hmem : frame ∈ frames) : profile.frame? (tables.numberOf frame) = some frame := by
  rw [Profile.frame?, hlocations, hfunctions, h.getElem?_numberOf hlt hmem, Option.bind_eq_bind,
    Option.bind_some, h.getElem?_functionIndex hlt hmem, Option.bind_eq_bind, Option.bind_some]
  -- native frames are told by their implementation
  obtain ⟨name, filename, line, isNative⟩ := frame
  cases isNative <;> rfl

/-- The tables of a profile's encoding. -/
def tablesOf (profile : StackProfiler.Profile) : Tables :=
  (Tables.internAll {} profile.locations.toList).2

theorem encodes_tablesOf (profile : StackProfiler.Profile) :
    (tablesOf profile).Encodes profile.locations.toList :=
  Tables.encodes_empty.internAll profile.locations.toList

/-- The samples of an encoding. -/
theorem samples_encode (flushed : Flushed StackProfiler.Profile) :
    (Profile.encode flushed).samples = flushed.profile.entries.map (Sample.ofEntry
      (flushed.profile.locations.toList.map (tablesOf flushed.profile).numberOf).toArray) := by
  rw [tablesOf, ← Tables.encodes_empty.internAll_numbers]
  rfl

/-- **The stack of an entry's encoding** has the numbers of its frames. -/
theorem stack_ofEntry (profile : StackProfiler.Profile) (key : SampleKey) (sums : List UInt64)
    (numberOf : Frame → UInt64) :
    (Sample.ofEntry (profile.locations.toList.map numberOf).toArray
      (profile.entry key sums)).stack = (profile.entry key sums).frames.map numberOf := by
  show key.stack.filterMap _ = (key.stack.filterMap _).map numberOf
  rw [List.map_filterMap]
  refine List.filterMap_congr fun number _ => ?_
  rw [Table.get?_eq, List.getElem?_toArray, List.getElem?_map]

/-- The frames of an entry are among the profile's locations. -/
theorem frames_subset_locations (profile : StackProfiler.Profile) (key : SampleKey)
    (sums : List UInt64) : (profile.entry key sums).frames ⊆ profile.locations.toList := by
  intro frame hmem
  obtain ⟨number, -, hget⟩ := List.mem_filterMap.1 hmem
  rw [Table.get?_eq] at hget
  exact List.mem_of_getElem? hget

/-! ## Entries -/

section Gathered

variable {profile : StackProfiler.Profile} {samples : List StackProfiler.Sample}
variable (h : profile.Gathers samples)
include h

/-- An entry has one value for each value type. -/
theorem length_values {entry : Entry} (hentry : entry ∈ profile.entries) :
    entry.values.length = profile.valueTypes.length := by
  obtain ⟨sample, -, rfl⟩ := h.mem_entries_iff.1 hentry
  exact List.length_map _

variable (room : Numberable samples)
include room

/-- 64 bits are enough to number the locations. -/
theorem length_locations_lt : profile.locations.toList.length < UInt64.size := by
  have hlt := room.frames_lt
  rw [← h.locations_toList] at hlt
  have : UInt32.size < UInt64.size := by decide
  omega

/-- All frames of an entry are known. -/
theorem length_frames {entry : Entry} (hentry : entry ∈ profile.entries) :
    entry.frames.length = entry.stack.length := by
  obtain ⟨sample, hmem, rfl⟩ := h.mem_entries_iff.1 hentry
  rw [h.entry_keyOf_frames room (h.knows hmem)]
  show _ = ((sample.frames.map _).map _).length
  rw [List.length_map, List.length_map]

omit room in
/-- The stack of an entry has the numbers of known frames. -/
theorem stack_of_mem_entries {entry : Entry} (hentry : entry ∈ profile.entries) :
    (Sample.ofEntry (profile.locations.toList.map (tablesOf profile).numberOf).toArray
      entry).stack = entry.frames.map (tablesOf profile).numberOf ∧
    entry.frames ⊆ profile.locations.toList := by
  obtain ⟨sample, -, rfl⟩ := h.mem_entries_iff.1 hentry
  exact ⟨stack_ofEntry .., frames_subset_locations ..⟩

/-- **An entry can be read from its encoding.** -/
theorem restoresEntry {encoded : Profile}
    (hlocations : encoded.locations = (tablesOf profile).locations.toList)
    (hfunctions : encoded.functions = (tablesOf profile).functions.toList)
    {entry : Entry} (hentry : entry ∈ profile.entries) :
    encoded.RestoresEntry (Sample.ofEntry
      (profile.locations.toList.map (tablesOf profile).numberOf).toArray entry) entry := by
  obtain ⟨hstack, hsubset⟩ := stack_of_mem_entries h hentry
  refine ⟨?_, ?_, ?_, rfl⟩
  · rw [hstack, List.length_map, length_frames h room hentry]
  · rw [hstack]
    exact mapM_map_eq_some fun frame hframe => frame?_numberOf (encodes_tablesOf profile)
      (length_locations_lt h room) hlocations hfunctions (hsubset hframe)
  · exact mapM_map_eq_some fun label _ => Label.read?_ofLabel label

/-- **Everything can be read from the encoding** of what has been gathered. -/
theorem restores (start finish nextStart : Instant) :
    (Profile.encode ⟨start, finish, nextStart, profile⟩).Restores
      ⟨start, finish, nextStart, profile⟩ := by
  have henc := encodes_tablesOf profile
  have hlt := length_locations_lt h room
  have hentries : ∀ entry ∈ profile.entries,
      (Profile.encode ⟨start, finish, nextStart, profile⟩).RestoresEntry (Sample.ofEntry
        (profile.locations.toList.map (tablesOf profile).numberOf).toArray entry) entry :=
    fun entry hentry => restoresEntry h room rfl rfl hentry
  refine ⟨?_, ?_, ?_, ?_, ?_, ?_, ?_, ?_⟩
  · intro sample hsample number hnumber
    rw [samples_encode] at hsample
    obtain ⟨entry, hentry, rfl⟩ := List.mem_map.1 hsample
    obtain ⟨hstack, hsubset⟩ := stack_of_mem_entries h hentry
    rw [hstack] at hnumber
    obtain ⟨frame, hframe, rfl⟩ := List.mem_map.1 hnumber
    exact (List.getElem?_eq_some_iff.1 (henc.getElem?_numberOf hlt (hsubset hframe))).1
  · intro location hlocation
    have hmem : location ∈ (tablesOf profile).locations.toList := hlocation
    rw [henc.locations_toList, List.mem_eraseDups] at hmem
    obtain ⟨frame, hframe, rfl⟩ := List.mem_map.1 hmem
    exact (List.getElem?_eq_some_iff.1 (henc.getElem?_functionIndex hlt hframe)).1
  · intro sample hsample
    rw [samples_encode] at hsample
    obtain ⟨entry, hentry, rfl⟩ := List.mem_map.1 hsample
    show entry.values.length = (profile.valueTypes.map _).length
    rw [length_values h hentry, List.length_map]
  · rw [samples_encode, List.forall₂_map_left_iff, List.forall₂_same]
    exact hentries
  · exact List.map_map
  · exact List.map_map
  · rw [← Int.sub_zero start.nanos]
    exact toNat_nanosSince start .epoch
  · exact toNat_nanosSince finish start

end Gathered

/-- **Encoding loses nothing**, whatever has been called on the profile and
whichever times it is flushed with. -/
theorem encode_restores (valueTypes : List Metric) (origin : Instant) (calls : List StoreCall)
    (room : Numberable (pending calls)) (start finish nextStart : Instant) :
    let flushed : Flushed StackProfiler.Profile :=
      ⟨start, finish, nextStart, StackProfiler.Profile.after valueTypes origin calls⟩
    (Profile.encode flushed).Restores flushed := by
  rw [StackProfiler.Profile.after_eq_gathered]
  exact restores (StackProfiler.Profile.gathers_gathered ..) room start finish nextStart

/-- A sample of a function, its native namesake, the function at another line and
one of the same name from another file. -/
def namesakes : StackProfiler.Sample :=
  ⟨[⟨"f", "app", 1, false⟩, ⟨"f", "app", 1, true⟩, ⟨"f", "app", 2, false⟩,
    ⟨"f", "lib", 1, false⟩], [.str "a" "x", .num "b" 1], {}⟩

theorem encode_namesakes :
    Numberable (pending [.add namesakes]) ∧
      (Profile.encode ⟨.epoch, .epoch, .epoch,
        StackProfiler.Profile.after [.cpuTime] .epoch [.add namesakes]⟩).samples.length = 1 := by
  have room : Numberable (pending [.add namesakes]) := ⟨by decide, by decide⟩
  have hrestores := encode_restores [.cpuTime] .epoch [.add namesakes] room .epoch .epoch .epoch
  have hkinds := (StackProfiler.Profile.gathers_gathered [.cpuTime] .epoch
    [namesakes]).entries_kind room
  have hlength := congrArg List.length hkinds
  rw [List.length_map] at hlength
  exact ⟨room, hrestores.samples.length_eq.trans hlength⟩

end Wire

end StackProfiler
