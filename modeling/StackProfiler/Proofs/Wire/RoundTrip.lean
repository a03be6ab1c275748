import Mathlib.Logic.Function.Basic
import StackProfiler.Proofs.Json.Writing
import StackProfiler.Proofs.Wire.Rendering
/-!
# Encoded profiles — written and read back

What is written for each record spells a tree of its form. Since the readers are
exact for the same forms, an encoded profile is read back from its text unchanged;
so the text determines the profile, and rewriting a text leaves one that rewriting
does not change.
-/

namespace StackProfiler

namespace Wire

open Json

theorem ValueType.writes : Writes ValueType.write ValueType.form := by
  intro valueType
  obtain ⟨type, htype, htypeForm⟩ := writes_text valueType.type
  obtain ⟨unit, hunit, hunitForm⟩ := writes_text valueType.unit
  have hmembers : List.Forall₂ MemberText
      [("type", writeString valueType.type), ("unit", writeString valueType.unit)]
      [("type", type), ("unit", unit)] :=
    .cons ⟨rfl, htype⟩ (.cons ⟨rfl, hunit⟩ .nil)
  obtain ⟨tree, htree, hgives⟩ := exists_tree_of_writeObject hmembers _
  exact ⟨tree, htree, _, hgives, ⟨type, rfl, htypeForm⟩, ⟨unit, rfl, hunitForm⟩⟩

theorem Label.writes : Writes Label.write Label.form := by
  intro label
  obtain ⟨key, hkey, hkeyForm⟩ := writes_text label.key
  obtain ⟨str, hstr, hstrName, hstrForm⟩ := writes_text.exists_optional "str" label.str
  obtain ⟨num, hnum, hnumName, hnumForm⟩ := writes_signed.exists_optional "num" label.num
  have hmembers : List.Forall₂ MemberText [("key", writeString label.key)] [("key", key)] :=
    .cons ⟨rfl, hkey⟩ .nil
  obtain ⟨tree, htree, hgives⟩ := exists_tree_of_writeObject
    (List.rel_append (List.rel_append hmembers hstr) hnum) ["key", "str", "num"]
  -- each field sees its own part of what is given and nothing of the others
  have hother : ∀ {name other : String} {given : List (String × Tree)},
      (∀ part ∈ given, part.1 = other) → other ≠ name → under name given = [] :=
    fun hname hne => under_eq_nil fun part hmem heq => hne (hname part hmem ▸ heq)
  refine ⟨tree, htree, _, hgives, ⟨key, ?_, hkeyForm⟩, hstrForm.congr ?_, hnumForm.congr ?_⟩
  · rw [under_append, under_append, hother hstrName (by decide), hother hnumName (by decide)]
    rfl
  · rw [under_append, under_append, hother hnumName (by decide), List.append_nil]
    rfl
  · rw [under_append, under_append, hother hstrName (by decide), List.append_nil]
    rfl

theorem Sample.writes : Writes Sample.write Sample.form := by
  intro sample
  obtain ⟨stack, hstack, hstackForm⟩ := (writes_natural UInt64.toNat).list sample.stack
  obtain ⟨labels, hlabels, hlabelsForm⟩ := Label.writes.list sample.labels
  obtain ⟨values, hvalues, hvaluesForm⟩ := (writes_natural UInt64.toNat).list sample.values
  have hmembers : List.Forall₂ MemberText
      [("stack", writeList (fun index => writeNat (UInt64.toNat index)) sample.stack),
        ("labels", writeList Label.write sample.labels),
        ("values", writeList (fun value => writeNat (UInt64.toNat value)) sample.values)]
      [("stack", stack), ("labels", labels), ("values", values)] :=
    .cons ⟨rfl, hstack⟩ (.cons ⟨rfl, hlabels⟩ (.cons ⟨rfl, hvalues⟩ .nil))
  obtain ⟨tree, htree, hgives⟩ := exists_tree_of_writeObject hmembers _
  exact ⟨tree, htree, _, hgives, ⟨stack, rfl, hstackForm⟩, ⟨labels, rfl, hlabelsForm⟩,
    ⟨values, rfl, hvaluesForm⟩⟩

theorem Location.writes : Writes Location.write Location.form := by
  intro location
  obtain ⟨index, hindex, hindexForm⟩ := writes_natural UInt64.toNat location.functionIndex
  obtain ⟨line, hline, hlineForm⟩ := writes_natural UInt32.toNat location.lineno
  have hmembers : List.Forall₂ MemberText
      [("function_index", writeNat location.functionIndex.toNat),
        ("lineno", writeNat location.lineno.toNat)]
      [("function_index", index), ("lineno", line)] :=
    .cons ⟨rfl, hindex⟩ (.cons ⟨rfl, hline⟩ .nil)
  obtain ⟨tree, htree, hgives⟩ := exists_tree_of_writeObject hmembers _
  exact ⟨tree, htree, _, hgives, ⟨index, rfl, hindexForm⟩, ⟨line, rfl, hlineForm⟩⟩

theorem Function.writes : Writes Function.write Function.form := by
  intro function
  obtain ⟨implementation, himpl, himplForm⟩ :=
    writes_named Implementation.name function.implementation
  obtain ⟨name, hname, hnameForm⟩ := writes_text function.name
  obtain ⟨filename, hfile, hfileForm⟩ := writes_text function.filename
  have hmembers : List.Forall₂ MemberText
      [("implementation", writeString function.implementation.name),
        ("name", writeString function.name), ("filename", writeString function.filename)]
      [("implementation", implementation), ("name", name), ("filename", filename)] :=
    .cons ⟨rfl, himpl⟩ (.cons ⟨rfl, hname⟩ (.cons ⟨rfl, hfile⟩ .nil))
  obtain ⟨tree, htree, hgives⟩ := exists_tree_of_writeObject hmembers _
  exact ⟨tree, htree, _, hgives, ⟨implementation, rfl, himplForm⟩, ⟨name, rfl, hnameForm⟩,
    ⟨filename, rfl, hfileForm⟩⟩

theorem Profile.writes : Writes Profile.write Profile.form := by
  intro profile
  obtain ⟨start, hstart, hstartForm⟩ := writes_natural BitVec.toNat profile.startTimestampNs
  obtain ⟨duration, hduration, hdurationForm⟩ := writes_natural BitVec.toNat profile.durationNs
  obtain ⟨types, htypes, htypesForm⟩ := ValueType.writes.list profile.valueTypes
  obtain ⟨samples, hsamples, hsamplesForm⟩ := Sample.writes.list profile.samples
  obtain ⟨locations, hlocations, hlocationsForm⟩ := Location.writes.list profile.locations
  obtain ⟨functions, hfunctions, hfunctionsForm⟩ := Function.writes.list profile.functions
  have hmembers : List.Forall₂ MemberText
      [("start_timestamp_ns", writeNat profile.startTimestampNs.toNat),
        ("duration_ns", writeNat profile.durationNs.toNat),
        ("value_types", writeList ValueType.write profile.valueTypes),
        ("samples", writeList Sample.write profile.samples),
        ("locations", writeList Location.write profile.locations),
        ("functions", writeList Function.write profile.functions)]
      [("start_timestamp_ns", start), ("duration_ns", duration), ("value_types", types),
        ("samples", samples), ("locations", locations), ("functions", functions)] :=
    .cons ⟨rfl, hstart⟩ (.cons ⟨rfl, hduration⟩ (.cons ⟨rfl, htypes⟩ (.cons ⟨rfl, hsamples⟩
      (.cons ⟨rfl, hlocations⟩ (.cons ⟨rfl, hfunctions⟩ .nil)))))
  obtain ⟨tree, htree, hgives⟩ := exists_tree_of_writeObject hmembers _
  exact ⟨tree, htree, _, hgives, ⟨start, rfl, hstartForm⟩, ⟨duration, rfl, hdurationForm⟩,
    ⟨types, rfl, htypesForm⟩, ⟨samples, rfl, hsamplesForm⟩, ⟨locations, rfl, hlocationsForm⟩,
    ⟨functions, rfl, hfunctionsForm⟩⟩

/-- The encoded profile in a text, written again. -/
def Profile.rewrite (s : List Char) : Except Fault (List Char) :=
  (Profile.ofJson s).map Profile.write

/-- **An encoded profile is read back from its text unchanged**, and the text is JSON
that stands for it. So no two profiles have one text, and of a text that is rewritten
once more nothing changes. -/
theorem Profile.write_restores :
    (∀ profile : Profile, (∃ tree, Spells tree profile.write ∧ Profile.form tree profile) ∧
      Profile.ofJson profile.write = .ok profile) ∧
      Function.Injective Profile.write ∧
      ∀ s t, Profile.rewrite s = .ok t → Profile.rewrite t = .ok t := by
  have hread : ∀ profile : Profile, Profile.ofJson profile.write = .ok profile :=
    Profile.reads.whole_write Profile.writes
  refine ⟨fun profile => ⟨Profile.writes profile, hread profile⟩, ?_, ?_⟩
  · intro profile profile' h
    have hok := hread profile
    rw [h, hread profile'] at hok
    exact (Except.ok.inj hok).symm
  · intro s t h
    obtain ⟨profile, -, rfl⟩ := map_eq_ok_iff.1 h
    rw [Profile.rewrite, hread profile]
    rfl

end Wire

end StackProfiler
