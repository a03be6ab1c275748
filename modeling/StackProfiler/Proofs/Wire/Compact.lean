import StackProfiler.Proofs.Profile.Numbering
import StackProfiler.Proofs.Wire.Lossless
/-!
# Encoding — nothing twice and nothing in vain

The encoder interns a frame by way of its function, into a table that grows while it is
used. Frames that differ still make different locations (`Encodes.locationOf_inj`), so
interning frames without repetition numbers them from 0 up: the locations of the encoding
are those of the profile, one to one and in order, and a stack keeps its numbers. No
function and no location is there twice, and each is used.
-/

namespace StackProfiler

namespace Wire

/-- A location of an encoded profile that is the place of a frame. -/
structure Profile.Locates (profile : Profile) (location : Location) (frame : Frame) : Prop where
  function : profile.functions[location.functionIndex.toNat]? = some (Tables.functionOf frame)
  line : location.lineno = frame.line

/-- **An encoded profile without waste**: it holds what its source needs, and no more. -/
structure Profile.Compact (profile : Profile) (source : StackProfiler.Profile) : Prop where
  /-- Its locations are those of the source, one to one and in order. -/
  locations : List.Forall₂ profile.Locates profile.locations source.locations.toList
  /-- So a sample has the stack that the entry has. -/
  samples : List.Forall₂
    (fun sample entry => sample.stack.map UInt64.toNat = entry.stack.map UInt32.toNat)
    profile.samples source.entries
  locations_nodup : profile.locations.Nodup
  functions_nodup : profile.functions.Nodup
  /-- The functions of the source's frames, each where it first comes. -/
  functions : profile.functions = (source.locations.toList.map Tables.functionOf).eraseDups
  /-- Every function has a location. -/
  function_used : ∀ position < profile.functions.length,
    ∃ location ∈ profile.locations, location.functionIndex.toNat = position
  /-- Every location is on a stack. -/
  location_used : ∀ position < profile.locations.length,
    ∃ sample ∈ profile.samples, ∃ number ∈ sample.stack, number.toNat = position

/-! ## Frames that differ -/

namespace Tables

/-- A frame is its function and its line. -/
theorem eq_of_functionOf {frame other : Frame} (hfunction : functionOf frame = functionOf other)
    (hline : frame.line = other.line) : frame = other := by
  obtain ⟨name, filename, line, isNative⟩ := frame
  obtain ⟨name', filename', line', isNative'⟩ := other
  cases isNative <;> cases isNative' <;> simp_all [functionOf]

namespace Encodes

variable {tables : Tables} {frames : List Frame}
variable (h : tables.Encodes frames) (hlt : frames.length < UInt64.size)
include h hlt

/-- **Frames that differ have different locations**: a location leads to the function. -/
theorem locationOf_inj : ∀ frame ∈ frames, ∀ other ∈ frames,
    tables.locationOf frame = tables.locationOf other → frame = other := by
  intro frame hmem other hother hlocation
  have hfunction := h.getElem?_functionIndex hlt hmem
  rw [hlocation, h.getElem?_functionIndex hlt hother] at hfunction
  exact eq_of_functionOf (Option.some.inj hfunction).symm (congrArg Location.lineno hlocation)

/-- **Every function is that of a location.** -/
theorem exists_location_of_function {position : Nat}
    (hposition : position < tables.functions.toList.length) :
    ∃ location ∈ tables.locations.toList, location.functionIndex.toNat = position := by
  have hfunction : tables.functions.toList[position] ∈ (frames.map functionOf).eraseDups :=
    h.functions_toList ▸ List.getElem_mem hposition
  obtain ⟨frame, hmem, hframe⟩ := List.mem_map.1 (List.mem_eraseDups.1 hfunction)
  refine ⟨tables.locationOf frame, ?_, ?_⟩
  · rw [h.locations_toList, List.mem_eraseDups]
    exact List.mem_map_of_mem hmem
  · obtain ⟨hindex, hget⟩ := List.getElem?_eq_some_iff.1 (h.getElem?_functionIndex hlt hmem)
    exact h.functions_exact.nodup.getElem_inj_iff.1 (hget.trans hframe)

variable (hnodup : frames.Nodup)
include hnodup

/-- **Frames without repetition have a location each**, in their order. -/
theorem locations_eq_map : tables.locations.toList = frames.map tables.locationOf := by
  rw [h.locations_toList, eraseDups_map (h.locationOf_inj hlt), eraseDups_of_nodup hnodup]

/-- **And are numbered from 0 up.** -/
theorem toNat_numberOf {position : Nat} {frame : Frame}
    (hframe : frames[position]? = some frame) : (tables.numberOf frame).toNat = position := by
  have hat : tables.locations.toList[position]? = some (tables.locationOf frame) := by
    rw [h.locations_eq_map hlt hnodup, List.getElem?_map, hframe]
    rfl
  obtain ⟨hposition, hget⟩ := List.getElem?_eq_some_iff.1 hat
  have hidx := h.locations_exact.nodup.idxOf_getElem position hposition
  rw [hget] at hidx
  have hlength := (List.getElem?_eq_some_iff.1 hframe).1
  rw [numberOf, hidx, UInt64.toNat_ofNat_of_lt' (by omega)]

/-- Numbers in range stay what they are. -/
theorem map_toNat_numbers {stack : List UInt32}
    (hstack : ∀ number ∈ stack, number.toNat < frames.length) :
    (stack.filterMap fun number => (frames.map tables.numberOf).toArray[number.toNat]?).map
      UInt64.toNat = stack.map UInt32.toNat := by
  induction stack with
  | nil => rfl
  | cons number stack ih =>
    obtain ⟨hnumber, hrest⟩ := List.forall_mem_cons.1 hstack
    have hframe := List.getElem?_eq_getElem hnumber
    have hget : (frames.map tables.numberOf).toArray[number.toNat]? =
        some (tables.numberOf frames[number.toNat]) := by
      rw [List.getElem?_toArray, List.getElem?_map, hframe]
      rfl
    rw [List.filterMap_cons, hget, List.map_cons, h.toNat_numberOf hlt hnodup hframe, ih hrest,
      List.map_cons]

end Encodes

end Tables

/-! ## What has been gathered -/

section Gathered

variable {profile : StackProfiler.Profile} {samples : List StackProfiler.Sample}
variable (h : profile.Gathers samples) (room : Numberable samples)
include h room

/-- The encoding of an entry has the stack of the entry. -/
theorem toNat_stack_ofEntry {entry : Entry} (hentry : entry ∈ profile.entries) :
    (Sample.ofEntry (profile.locations.toList.map (tablesOf profile).numberOf).toArray
      entry).stack.map UInt64.toNat = entry.stack.map UInt32.toNat := by
  obtain ⟨sample, hmem, rfl⟩ := h.mem_entries_iff.1 hentry
  exact (encodes_tablesOf profile).map_toNat_numbers (length_locations_lt h room)
    h.locations_exact.nodup (h.toNat_stack_lt room (h.mem_keys_iff.2 ⟨sample, hmem, rfl⟩))

/-- **A location of the profile is on the stack of an entry.** -/
theorem exists_entry_of_location {position : Nat} {frame : Frame}
    (hframe : profile.locations.toList[position]? = some frame) :
    ∃ entry ∈ profile.entries, ∃ number ∈ (Sample.ofEntry
      (profile.locations.toList.map (tablesOf profile).numberOf).toArray entry).stack,
      number.toNat = position := by
  -- the frame came with a sample, and its number is on the stack of that sample's entry
  have hmem := List.mem_of_getElem? hframe
  rw [h.locations_toList, distinctFrames, List.mem_eraseDups] at hmem
  obtain ⟨sample, hsample, hframes⟩ := List.mem_flatMap.1 hmem
  have hentry := h.mem_entries_iff.2 ⟨sample, hsample, rfl⟩
  refine ⟨_, hentry, (tablesOf profile).numberOf frame, ?_,
    (encodes_tablesOf profile).toNat_numberOf (length_locations_lt h room)
      h.locations_exact.nodup hframe⟩
  rw [(stack_of_mem_entries h hentry).1, h.entry_keyOf_frames room (h.knows hsample)]
  exact List.mem_map_of_mem hframes

/-- **The encoding of what has been gathered** is compact. -/
theorem compact (start finish nextStart : Instant) :
    (Profile.encode ⟨start, finish, nextStart, profile⟩).Compact profile := by
  have henc := encodes_tablesOf profile
  have hlt := length_locations_lt h room
  have hlocations := henc.locations_eq_map hlt h.locations_exact.nodup
  refine ⟨?_, ?_, henc.locations_exact.nodup, henc.functions_exact.nodup,
    henc.functions_toList, ?_, ?_⟩
  · show List.Forall₂ _ (tablesOf profile).locations.toList profile.locations.toList
    rw [hlocations, List.forall₂_map_left_iff, List.forall₂_same]
    exact fun frame hmem => ⟨henc.getElem?_functionIndex hlt hmem, rfl⟩
  · rw [samples_encode, List.forall₂_map_left_iff, List.forall₂_same]
    exact fun entry hentry => toNat_stack_ofEntry h room hentry
  · intro position hposition
    change position < (tablesOf profile).functions.toList.length at hposition
    exact henc.exists_location_of_function hlt hposition
  · intro position hposition
    change position < (tablesOf profile).locations.toList.length at hposition
    rw [hlocations, List.length_map] at hposition
    obtain ⟨entry, hentry, hused⟩ :=
      exists_entry_of_location h room (List.getElem?_eq_getElem hposition)
    refine ⟨_, ?_, hused⟩
    rw [samples_encode]
    exact List.mem_map_of_mem hentry

end Gathered

/-- **Encodings are compact**, whatever has been called on the profile and whichever times
it is flushed with. -/
theorem encode_compact (valueTypes : List Metric) (origin : Instant) (calls : List StoreCall)
    (room : Numberable (pending calls)) (start finish nextStart : Instant) :
    let source := StackProfiler.Profile.after valueTypes origin calls
    (Profile.encode ⟨start, finish, nextStart, source⟩).Compact source := by
  rw [StackProfiler.Profile.after_eq_gathered]
  exact compact (StackProfiler.Profile.gathers_gathered ..) room start finish nextStart

-- four frames are four locations, of three functions
theorem encode_compact_namesakes :
    Numberable (pending [.add namesakes, .add namesakes]) ∧
      let encoded := Profile.encode ⟨.epoch, .epoch, .epoch,
        StackProfiler.Profile.after [.cpuTime] .epoch [.add namesakes, .add namesakes]⟩
      encoded.locations.length = 4 ∧
        encoded.functions = [⟨.managed, "f", "app"⟩, ⟨.native, "f", "app"⟩,
          ⟨.managed, "f", "lib"⟩] := by
  have room : Numberable (pending [.add namesakes, .add namesakes]) := ⟨by decide, by decide⟩
  have hcompact := encode_compact [.cpuTime] .epoch [.add namesakes, .add namesakes] room
    .epoch .epoch .epoch
  have hlocations := (StackProfiler.Profile.gathers_gathered [.cpuTime] .epoch
    [namesakes, namesakes]).locations_toList
  refine ⟨room, ?_, ?_⟩
  · exact hcompact.locations.length_eq.trans (congrArg List.length hlocations)
  · rw [hcompact.functions]
    exact congrArg (fun frames => (frames.map Tables.functionOf).eraseDups) hlocations

end Wire

end StackProfiler
