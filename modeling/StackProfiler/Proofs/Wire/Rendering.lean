import StackProfiler.Proofs.Json.Records
import StackProfiler.Wire.Json
/-!
# Encoded profiles — the texts that are read

Which texts hold an encoded profile, told without a reader: the forms below spell
out the fields of each record and what a tree of each field stands for. The reader
of each record is exact for its form, so that of profiles accepts exactly the texts
of their trees and gives the profile a tree stands for.
-/

namespace StackProfiler

namespace Wire

open Json

/-! ## Forms -/

/-- The trees of a value type. -/
def ValueType.form : Form ValueType := fun tree valueType =>
  ∃ given, Gives ["type", "unit"] tree given ∧
    Required "type" Form.Text given valueType.type ∧
    Required "unit" Form.Text given valueType.unit

/-- **The trees of a label**, of which `str` and `num` may be left out or be null. -/
def Label.form : Form Label := fun tree label =>
  ∃ given, Gives ["key", "str", "num"] tree given ∧
    Required "key" Form.Text given label.key ∧
    Optional "str" (Form.OrNull Form.Text) none given label.str ∧
    Optional "num" (Form.OrNull Form.Signed) none given label.num

/-- The trees of a sample. -/
def Sample.form : Form Sample := fun tree sample =>
  ∃ given, Gives ["stack", "labels", "values"] tree given ∧
    Required "stack" (Form.ListOf (Form.Natural UInt64.toNat)) given sample.stack ∧
    Required "labels" (Form.ListOf Label.form) given sample.labels ∧
    Required "values" (Form.ListOf (Form.Natural UInt64.toNat)) given sample.values

/-- The trees of a location. -/
def Location.form : Form Location := fun tree location =>
  ∃ given, Gives ["function_index", "lineno"] tree given ∧
    Required "function_index" (Form.Natural UInt64.toNat) given location.functionIndex ∧
    Required "lineno" (Form.Natural UInt32.toNat) given location.lineno

/-- The trees of a function. -/
def Function.form : Form Function := fun tree function =>
  ∃ given, Gives ["implementation", "name", "filename"] tree given ∧
    Required "implementation" (Form.Named Implementation.name) given function.implementation ∧
    Required "name" Form.Text given function.name ∧
    Required "filename" Form.Text given function.filename

/-- **The trees of an encoded profile.** -/
def Profile.form : Form Profile := fun tree profile =>
  ∃ given, Gives ["start_timestamp_ns", "duration_ns", "value_types", "samples", "locations",
      "functions"] tree given ∧
    Required "start_timestamp_ns" (Form.Natural BitVec.toNat) given profile.startTimestampNs ∧
    Required "duration_ns" (Form.Natural BitVec.toNat) given profile.durationNs ∧
    Required "value_types" (Form.ListOf ValueType.form) given profile.valueTypes ∧
    Required "samples" (Form.ListOf Sample.form) given profile.samples ∧
    Required "locations" (Form.ListOf Location.form) given profile.locations ∧
    Required "functions" (Form.ListOf Function.form) given profile.functions

/-! ## Readers -/

theorem ValueType.reads : ValueType.shape.reader.Reads ValueType.form := by
  have h : ValueType.shape.reader.Reads (ValueType.shape.form (Form.Text, Form.Text, ())) :=
    Shape.reads ⟨Reader.reads_string, Reader.reads_string, trivial⟩ (by decide)
  refine h.congr fun tree valueType => ⟨?_, ?_⟩
  · rintro ⟨given, ⟨type, unit, _⟩, hgives, ⟨htype, hunit, -⟩, rfl⟩
    exact ⟨given, hgives, Field.holds_required.1 htype, Field.holds_required.1 hunit⟩
  · rintro ⟨given, hgives, htype, hunit⟩
    exact ⟨given, (valueType.type, valueType.unit, ()), hgives,
      ⟨Field.holds_required.2 htype, Field.holds_required.2 hunit, trivial⟩, rfl⟩

theorem Label.reads : Label.shape.reader.Reads Label.form := by
  have hstr : Reader.string.option.Reads (Form.OrNull Form.Text) :=
    Reader.reads_string.option (by rintro _ ⟨⟩)
  have hnum : Reader.signed64.option.Reads (Form.OrNull Form.Signed) :=
    Reader.reads_signed64.option (by rintro _ ⟨⟩)
  have h : Label.shape.reader.Reads (Label.shape.form
      (Form.Text, Form.OrNull Form.Text, Form.OrNull Form.Signed, ())) :=
    Shape.reads ⟨Reader.reads_string, hstr, hnum, trivial⟩ (by decide)
  refine h.congr fun tree label => ⟨?_, ?_⟩
  · rintro ⟨given, ⟨key, str, num, _⟩, hgives, ⟨hkey, hstr, hnum, -⟩, rfl⟩
    exact ⟨given, hgives, Field.holds_required.1 hkey, Field.holds_optional.1 hstr,
      Field.holds_optional.1 hnum⟩
  · rintro ⟨given, hgives, hkey, hstr, hnum⟩
    exact ⟨given, (label.key, label.str, label.num, ()), hgives,
      ⟨Field.holds_required.2 hkey, Field.holds_optional.2 hstr, Field.holds_optional.2 hnum,
        trivial⟩, rfl⟩

/-- An array of fields may end early, and null stands for no value. -/
example : (Label.shape.reader.whole " [\"k\", null]".toList).toOption =
    some ⟨"k", none, none⟩ := by
  cbv

theorem Sample.reads : Sample.shape.reader.Reads Sample.form := by
  have h : Sample.shape.reader.Reads (Sample.shape.form
      (Form.ListOf (Form.Natural UInt64.toNat), Form.ListOf Label.form,
        Form.ListOf (Form.Natural UInt64.toNat), ())) :=
    Shape.reads ⟨Reader.reads_count.list, Label.reads.list, Reader.reads_word64.list, trivial⟩
      (by decide)
  refine h.congr fun tree sample => ⟨?_, ?_⟩
  · rintro ⟨given, ⟨stack, labels, values, _⟩, hgives, ⟨hstack, hlabels, hvalues, -⟩, rfl⟩
    exact ⟨given, hgives, Field.holds_required.1 hstack, Field.holds_required.1 hlabels,
      Field.holds_required.1 hvalues⟩
  · rintro ⟨given, hgives, hstack, hlabels, hvalues⟩
    exact ⟨given, (sample.stack, sample.labels, sample.values, ()), hgives,
      ⟨Field.holds_required.2 hstack, Field.holds_required.2 hlabels,
        Field.holds_required.2 hvalues, trivial⟩, rfl⟩

theorem Location.reads : Location.shape.reader.Reads Location.form := by
  have h : Location.shape.reader.Reads (Location.shape.form
      (Form.Natural UInt64.toNat, Form.Natural UInt32.toNat, ())) :=
    Shape.reads ⟨Reader.reads_count, Reader.reads_word32, trivial⟩ (by decide)
  refine h.congr fun tree location => ⟨?_, ?_⟩
  · rintro ⟨given, ⟨functionIndex, lineno, _⟩, hgives, ⟨hindex, hline, -⟩, rfl⟩
    exact ⟨given, hgives, Field.holds_required.1 hindex, Field.holds_required.1 hline⟩
  · rintro ⟨given, hgives, hindex, hline⟩
    exact ⟨given, (location.functionIndex, location.lineno, ()), hgives,
      ⟨Field.holds_required.2 hindex, Field.holds_required.2 hline, trivial⟩, rfl⟩

/-- A name is found exactly as that of its implementation. -/
theorem Implementation.lookup_names_eq_some_iff (text : String) (implementation : Implementation) :
    names.lookup text = some implementation ↔ text = implementation.name := by
  rcases Decidable.em (text = "Managed") with rfl | hmanaged
  · cases implementation <;> decide
  · rcases Decidable.em (text = "Native") with rfl | hnative
    · cases implementation <;> decide
    · cases implementation <;>
        simp [names, name, List.lookup_cons, beq_eq_false_iff_ne.2 hmanaged,
          beq_eq_false_iff_ne.2 hnative, hmanaged, hnative]

theorem Function.reads : Function.shape.reader.Reads Function.form := by
  have h : Function.shape.reader.Reads (Function.shape.form
      (Form.Named Implementation.name, Form.Text, Form.Text, ())) :=
    Shape.reads ⟨Reader.reads_variant Implementation.lookup_names_eq_some_iff,
      Reader.reads_string, Reader.reads_string, trivial⟩ (by decide)
  refine h.congr fun tree function => ⟨?_, ?_⟩
  · rintro ⟨given, ⟨implementation, name, filename, _⟩, hgives, ⟨himpl, hname, hfile, -⟩, rfl⟩
    exact ⟨given, hgives, Field.holds_required.1 himpl, Field.holds_required.1 hname,
      Field.holds_required.1 hfile⟩
  · rintro ⟨given, hgives, himpl, hname, hfile⟩
    exact ⟨given, (function.implementation, function.name, function.filename, ()), hgives,
      ⟨Field.holds_required.2 himpl, Field.holds_required.2 hname,
        Field.holds_required.2 hfile, trivial⟩, rfl⟩

/-- The forms of the fields of an encoded profile. -/
abbrev Profile.forms : Forms Profile.shape.fields :=
  (Form.Natural BitVec.toNat, Form.Natural BitVec.toNat, Form.ListOf ValueType.form,
    Form.ListOf Sample.form, Form.ListOf Location.form, Form.ListOf Function.form, ())

theorem Profile.readsAll : ReadsAll Profile.shape.fields Profile.forms :=
  ⟨Reader.reads_word128, Reader.reads_word128, ValueType.reads.list, Sample.reads.list,
    Location.reads.list, Function.reads.list, trivial⟩

theorem Profile.shape_form_iff {tree : Tree} {profile : Profile} :
    Profile.shape.form Profile.forms tree profile ↔ Profile.form tree profile := by
  constructor
  · rintro ⟨given, ⟨start, duration, valueTypes, samples, locations, functions, _⟩, hgives,
      ⟨hstart, hduration, htypes, hsamples, hlocations, hfunctions, -⟩, rfl⟩
    exact ⟨given, hgives, Field.holds_required.1 hstart, Field.holds_required.1 hduration,
      Field.holds_required.1 htypes, Field.holds_required.1 hsamples,
      Field.holds_required.1 hlocations, Field.holds_required.1 hfunctions⟩
  · rintro ⟨given, hgives, hstart, hduration, htypes, hsamples, hlocations, hfunctions⟩
    exact ⟨given, (profile.startTimestampNs, profile.durationNs, profile.valueTypes,
      profile.samples, profile.locations, profile.functions, ()), hgives,
      ⟨Field.holds_required.2 hstart, Field.holds_required.2 hduration,
        Field.holds_required.2 htypes, Field.holds_required.2 hsamples,
        Field.holds_required.2 hlocations, Field.holds_required.2 hfunctions, trivial⟩, rfl⟩

theorem Profile.reads : Profile.shape.reader.Reads Profile.form :=
  (Shape.reads Profile.readsAll (by decide)).congr fun _ _ => Profile.shape_form_iff

/-- **The reader of encoded profiles accepts exactly the texts of their trees**, with
white space around them, and gives the profile a tree stands for. -/
theorem Profile.ofJson_eq_ok_iff_form (s : List Char) (profile : Profile) :
    Profile.ofJson s = .ok profile ↔ ∃ tree, IsText s tree ∧ Profile.form tree profile :=
  Profile.reads.whole_eq_ok_iff

end Wire

end StackProfiler
