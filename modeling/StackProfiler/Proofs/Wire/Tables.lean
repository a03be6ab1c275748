import StackProfiler.Proofs.Table
import StackProfiler.Wire.Encoding
/-!
# Encoding — functions and locations

Tables into which frames have been interned hold the functions of these frames
and their locations, each in order of first appearance (`Encodes`), and a frame
is given the number of its location (`internAll_numbers`). A number leads to the
location and from there to the function, as long as 64 bits suffice.
-/

namespace StackProfiler

namespace Wire

namespace Tables

/-- The location of a frame whose function the tables hold. -/
def locationOf (tables : Tables) (frame : Frame) : Location where
  functionIndex := UInt64.ofNat (tables.functions.toList.idxOf (functionOf frame))
  lineno := frame.line

/-- The number of a frame whose location the tables hold. -/
def numberOf (tables : Tables) (frame : Frame) : UInt64 :=
  UInt64.ofNat (tables.locations.toList.idxOf (tables.locationOf frame))

/-- **Tables that hold just what some frames need.** -/
structure Encodes (tables : Tables) (frames : List Frame) : Prop where
  functions_exact : tables.functions.Exact
  functions_toList : tables.functions.toList = (frames.map functionOf).eraseDups
  locations_exact : tables.locations.Exact
  locations_toList : tables.locations.toList = (frames.map tables.locationOf).eraseDups

theorem encodes_empty : ({} : Tables).Encodes [] where
  functions_exact := Table.exact_empty
  functions_toList := rfl
  locations_exact := Table.exact_empty
  locations_toList := rfl

namespace Encodes

variable {tables tables' : Tables} {frames more : List Frame}
variable (h : tables.Encodes frames)
include h

/-- **Locations are stable**: no function moves when others come. -/
theorem locationOf_append
    (h' : tables'.functions.toList = ((frames ++ more).map functionOf).eraseDups) {frame : Frame}
    (hmem : frame ∈ frames) :
    tables'.locationOf frame = tables.locationOf frame := by
  rw [locationOf, locationOf, h', h.functions_toList, List.map_append,
    idxOf_eraseDups_append (List.mem_map_of_mem hmem)]

/-- **Numbers are stable** as well. -/
theorem numberOf_append (h' : tables'.Encodes (frames ++ more)) {frame : Frame}
    (hmem : frame ∈ frames) : tables'.numberOf frame = tables.numberOf frame := by
  have hlocations : frames.map tables'.locationOf = frames.map tables.locationOf :=
    List.map_congr_left fun other hother => h.locationOf_append h'.functions_toList hother
  rw [numberOf, numberOf, h'.locations_toList, h.locations_toList, List.map_append, hlocations,
    h.locationOf_append h'.functions_toList hmem,
    idxOf_eraseDups_append (List.mem_map_of_mem hmem)]

/-- The location that is interned for a frame is its location. -/
theorem intern_locationOf (frame : Frame) :
    (tables.intern frame).2.locationOf frame =
      ⟨UInt64.ofNat (tables.functions.intern (functionOf frame)).1, frame.line⟩ := by
  rw [h.functions_exact.intern_position]
  rfl

/-- **One frame more.** -/
theorem intern (frame : Frame) : (tables.intern frame).2.Encodes (frames ++ [frame]) := by
  have hfunctions : (tables.intern frame).2.functions.toList =
      ((frames ++ [frame]).map functionOf).eraseDups := by
    show (tables.functions.intern (functionOf frame)).2.toList = _
    rw [h.functions_exact.intern_items, h.functions_toList, eraseDups_eraseDups_append,
      List.map_append, List.map_singleton]
  have hold : frames.map (tables.intern frame).2.locationOf = frames.map tables.locationOf :=
    List.map_congr_left fun other hother => h.locationOf_append hfunctions hother
  refine ⟨h.functions_exact.intern _, hfunctions, h.locations_exact.intern _, ?_⟩
  rw [List.map_append, List.map_singleton, hold, h.intern_locationOf]
  show (tables.locations.intern
    ⟨UInt64.ofNat (tables.functions.intern (functionOf frame)).1, frame.line⟩).2.toList = _
  rw [h.locations_exact.intern_items, h.locations_toList, eraseDups_eraseDups_append]

/-- It is given the number of its location. -/
theorem intern_number (frame : Frame) :
    (tables.intern frame).1 = (tables.intern frame).2.numberOf frame := by
  rw [numberOf, h.intern_locationOf]
  show UInt64.ofNat (tables.locations.intern _).1 = _
  rw [h.locations_exact.intern_position]
  rfl

/-- **Several frames more.** -/
theorem internAll (more : List Frame) : (tables.internAll more).2.Encodes (frames ++ more) := by
  induction more generalizing tables frames with
  | nil =>
    rw [List.append_nil]
    exact h
  | cons frame more ih =>
    have hrest := ih (h.intern frame)
    rwa [List.append_assoc, List.singleton_append] at hrest

/-- **They are given the numbers of their locations.** -/
theorem internAll_numbers (more : List Frame) :
    (tables.internAll more).1 = more.map (tables.internAll more).2.numberOf := by
  induction more generalizing tables frames with
  | nil => rfl
  | cons frame more ih =>
    have hfirst := h.intern frame
    have hnumber : ((tables.intern frame).2.internAll more).2.numberOf frame =
        (tables.intern frame).1 := by
      rw [hfirst.numberOf_append (hfirst.internAll more) (by simp), h.intern_number]
    show (tables.intern frame).1 :: ((tables.intern frame).2.internAll more).1 =
      ((tables.intern frame).2.internAll more).2.numberOf frame ::
        more.map ((tables.intern frame).2.internAll more).2.numberOf
    rw [hnumber, ih hfirst]

/-! ## Numbers lead back -/

section Room

variable (hlt : frames.length < UInt64.size) {frame : Frame} (hmem : frame ∈ frames)
include hlt hmem

/-- A frame's number is a position among the locations, and its location is
there. -/
theorem getElem?_numberOf :
    tables.locations.toList[(tables.numberOf frame).toNat]? = some (tables.locationOf frame) := by
  have hlocation : tables.locationOf frame ∈ tables.locations.toList := by
    rw [h.locations_toList, List.mem_eraseDups]
    exact List.mem_map_of_mem hmem
  have hposition := List.idxOf_lt_length_of_mem hlocation
  have hlength := length_eraseDups_le (frames.map tables.locationOf)
  rw [← h.locations_toList, List.length_map] at hlength
  rw [numberOf, UInt64.toNat_ofNat_of_lt' (by omega)]
  exact List.getElem?_idxOf hlocation

/-- And the location leads to the function. -/
theorem getElem?_functionIndex :
    tables.functions.toList[(tables.locationOf frame).functionIndex.toNat]? =
      some (functionOf frame) := by
  have hfunction : functionOf frame ∈ tables.functions.toList := by
    rw [h.functions_toList, List.mem_eraseDups]
    exact List.mem_map_of_mem hmem
  have hposition := List.idxOf_lt_length_of_mem hfunction
  have hlength := length_eraseDups_le (frames.map functionOf)
  rw [← h.functions_toList, List.length_map] at hlength
  rw [locationOf, UInt64.toNat_ofNat_of_lt' (by omega)]
  exact List.getElem?_idxOf hfunction

end Room

end Encodes

end Tables

end Wire

end StackProfiler
