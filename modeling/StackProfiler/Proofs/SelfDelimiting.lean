import StackProfiler.Proofs.Configuration.RoundTrip
import StackProfiler.Proofs.Json.CutRecords
import StackProfiler.Proofs.Wire.RoundTrip
/-!
# Written texts — where they end

What is written tells by itself where it ends. If the end is missing, wherever the text has
been cut off, its reader says that the text ends too early and finds nothing else wrong
with it; and if anything but white space follows, that is not taken for a part of it
(`SelfDelimiting`).
-/

namespace StackProfiler

open Json

/-- **A text that tells its own end** to a reader with these two faults. -/
structure SelfDelimiting {ε α : Type} (read : List Char → Except ε α) (ended malformed : ε)
    (text : List Char) : Prop where
  /-- Cut off anywhere, it is refused for ending too early, and for nothing else. -/
  cut : ∀ p, p <+: text → p ≠ text → read p = .error ended
  /-- With anything behind it but white space, it is refused as no JSON. -/
  followed : ∀ rest, ¬ Blank rest → read (text ++ rest) = .error malformed

/-- A reader that misses what is cut off, and needs nothing behind the whole text. -/
theorem Json.Reader.Misses.selfDelimiting {α : Type} {reader : Reader α} {t : List Char} {a : α}
    (h : reader.Misses t) (hrun : ∀ rest, reader.run (t ++ rest) = .ok (a, rest)) :
    SelfDelimiting reader.whole .ended .malformed t where
  cut := by
    intro p hfront hne
    have hended := h p ⟨hfront, hne⟩
    rw [Reader.whole, hended]
    rfl
  followed := by
    intro rest hrest
    rw [Reader.whole, hrun]
    exact if_neg fun hblank => hrest (skipBlank_eq_nil_iff.1 hblank)

/-! ## Encoded profiles -/

namespace Wire

theorem ValueType.misses (valueType : ValueType) :
    ValueType.shape.reader.Misses valueType.write := by
  have hwritten : Written ValueType.shape.fields
      [("type", writeString valueType.type), ("unit", writeString valueType.unit)] :=
    .given (Reader.string_awaits _) (.given (Reader.string_awaits _) .nil)
  exact Shape.misses_writeObject hwritten (by decide)

/-- A text and a number are written only where they are there. -/
theorem Label.misses (label : Label) : Label.shape.reader.Misses label.write := by
  have hkey := Reader.string_awaits label.key
  have hstr : ∀ text, Reader.string.option.Awaits (writeString text) := fun text =>
    (Reader.string_awaits text).option writes_text (by rintro _ ⟨⟩)
  have hnum : ∀ number : Int64, Reader.signed64.option.Awaits (writeInt number.toInt) :=
    fun number => (Reader.signed64_awaits number).option writes_signed (by rintro _ ⟨⟩)
  have hwritten : Written Label.shape.fields ([("key", writeString label.key)] ++
      (label.str.map fun text => ("str", writeString text)).toList ++
      (label.num.map fun number => ("num", writeInt number.toInt)).toList) := by
    cases label.str with
    | none =>
      cases label.num with
      | none => exact .given hkey (.leftOut (.leftOut .nil))
      | some number => exact .given hkey (.leftOut (.given (hnum number) .nil))
    | some text =>
      cases label.num with
      | none => exact .given hkey (.given (hstr text) (.leftOut .nil))
      | some number => exact .given hkey (.given (hstr text) (.given (hnum number) .nil))
  exact Shape.misses_writeObject hwritten (by decide)

theorem Sample.misses (sample : Sample) : Sample.shape.reader.Misses sample.write := by
  have hlabel : ∀ label : Label, Label.shape.reader.Awaits label.write := fun label =>
    .of_misses label.misses Label.reads Label.writes
  have hstack := Reader.reads_count.list_awaits (writes_natural _) Reader.count_awaits sample.stack
  have hlabels := Label.reads.list_awaits Label.writes hlabel sample.labels
  have hvalues := Reader.reads_word64.list_awaits (writes_natural _) Reader.word64_awaits
    sample.values
  have hwritten : Written Sample.shape.fields
      [("stack", writeList (fun index => writeNat (UInt64.toNat index)) sample.stack),
        ("labels", writeList Label.write sample.labels),
        ("values", writeList (fun value => writeNat (UInt64.toNat value)) sample.values)] :=
    .given hstack (.given hlabels (.given hvalues .nil))
  exact Shape.misses_writeObject hwritten (by decide)

theorem Location.misses (location : Location) :
    Location.shape.reader.Misses location.write := by
  have hwritten : Written Location.shape.fields
      [("function_index", writeNat location.functionIndex.toNat),
        ("lineno", writeNat location.lineno.toNat)] :=
    .given (Reader.count_awaits _) (.given (Reader.word32_awaits _) .nil)
  exact Shape.misses_writeObject hwritten (by decide)

theorem Function.misses (function : Function) :
    Function.shape.reader.Misses function.write := by
  have himplementation : (Reader.variant Implementation.names).Awaits
      (writeString function.implementation.name) :=
    (Reader.reads_variant Implementation.lookup_names_eq_some_iff).awaits (writes_named _)
      fun hcut => .inl (Reader.variant_misses _ _ _ hcut)
  have hwritten : Written Function.shape.fields
      [("implementation", writeString function.implementation.name),
        ("name", writeString function.name), ("filename", writeString function.filename)] :=
    .given himplementation (.given (Reader.string_awaits _) (.given (Reader.string_awaits _) .nil))
  exact Shape.misses_writeObject hwritten (by decide)

theorem Profile.misses (profile : Profile) : Profile.shape.reader.Misses profile.write := by
  have htypes := ValueType.reads.list_awaits ValueType.writes
    (fun valueType => .of_misses valueType.misses ValueType.reads ValueType.writes)
    profile.valueTypes
  have hsamples := Sample.reads.list_awaits Sample.writes
    (fun sample => .of_misses sample.misses Sample.reads Sample.writes) profile.samples
  have hlocations := Location.reads.list_awaits Location.writes
    (fun location => .of_misses location.misses Location.reads Location.writes) profile.locations
  have hfunctions := Function.reads.list_awaits Function.writes
    (fun function => .of_misses function.misses Function.reads Function.writes) profile.functions
  have hwritten : Written Profile.shape.fields
      [("start_timestamp_ns", writeNat profile.startTimestampNs.toNat),
        ("duration_ns", writeNat profile.durationNs.toNat),
        ("value_types", writeList ValueType.write profile.valueTypes),
        ("samples", writeList Sample.write profile.samples),
        ("locations", writeList Location.write profile.locations),
        ("functions", writeList Function.write profile.functions)] :=
    .given (Reader.word128_awaits _) (.given (Reader.word128_awaits _) (.given htypes
      (.given hsamples (.given hlocations (.given hfunctions .nil)))))
  exact Shape.misses_writeObject hwritten (by decide)

theorem Profile.selfDelimiting (profile : Profile) :
    SelfDelimiting Profile.ofJson .ended .malformed profile.write := by
  obtain ⟨tree, htree, hform⟩ := Profile.writes profile
  exact profile.misses.selfDelimiting fun rest => Shape.run_append Profile.readsAll (by decide)
    blank_nil htree (Profile.shape_form_iff.2 hform) rest

end Wire

/-! ## Configurations -/

theorem EnabledMetrics.misses (enabled : EnabledMetrics) :
    EnabledMetrics.shape.reader.Misses enabled.write := by
  have hwritten : Written EnabledMetrics.shape.fields
      [("cpu_time", writeBool enabled.cpuTime), ("alloc_samples", writeBool enabled.allocSamples)] :=
    .given (Reader.boolean_awaits _) (.given (Reader.boolean_awaits _) .nil)
  exact Shape.misses_writeObject hwritten (by decide)

namespace Configuration

theorem misses (configuration : Configuration) :
    Configuration.shape.reader.Misses configuration.write := by
  have henabled : EnabledMetrics.shape.reader.Awaits configuration.enabledMetrics.write :=
    .of_misses configuration.enabledMetrics.misses EnabledMetrics.reads EnabledMetrics.writes
  have hinterval := (Reader.word64_awaits configuration.flushInterval.millis).map Duration.ofMillis
  have hwritten : Written Configuration.shape.fields
      [("enabled_metrics", configuration.enabledMetrics.write),
        ("max_frames", writeNat configuration.maxFrames.toNat),
        ("flush_interval", writeNat configuration.flushInterval.millis.toNat)] :=
    .given henabled (.given (Reader.count_awaits _) (.given hinterval .nil))
  exact Shape.misses_writeObject hwritten (by decide)

theorem selfDelimiting (configuration : Configuration) :
    SelfDelimiting ofJson (.unreadable .ended) (.unreadable .malformed) configuration.write := by
  obtain ⟨tree, htree, hform⟩ := configuration.writes_written
  have h := configuration.misses.selfDelimiting fun rest =>
    Shape.run_append readsAll (by decide) blank_nil htree (shape_form_iff.2 hform) rest
  exact ⟨fun p hfront hne => ofJson_of_whole_error (h.cut p hfront hne),
    fun rest hrest => ofJson_of_whole_error (h.followed rest hrest)⟩

end Configuration

/-- **Everything that is written tells its own end**: the text of every encoded profile and of
every configuration, in range or not. -/
theorem written_selfDelimiting :
    (∀ profile : Wire.Profile,
      SelfDelimiting Wire.Profile.ofJson .ended .malformed profile.write) ∧
    ∀ configuration : Configuration, SelfDelimiting Configuration.ofJson (.unreadable .ended)
      (.unreadable .malformed) configuration.write :=
  ⟨Wire.Profile.selfDelimiting, Configuration.selfDelimiting⟩

end StackProfiler
