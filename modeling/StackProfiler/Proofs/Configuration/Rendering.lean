import StackProfiler.Configuration.Json
import StackProfiler.Proofs.Json.Records
/-!
# Configurations — the texts that are read

Which texts hold a configuration: any of its fields may be left out and then has its
default, an interval is a number of whole milliseconds. The readers are exact for the
forms below, so a text is accepted exactly where a tree of it stands for a configuration
in range (`Configuration.ofJson_eq_ok_iff`).
-/

namespace StackProfiler

open Json

/-! ## Forms -/

/-- The trees of the switches. -/
def EnabledMetrics.form : Form EnabledMetrics := fun tree enabled =>
  ∃ given, Gives ["cpu_time", "alloc_samples"] tree given ∧
    Optional "cpu_time" Form.Switch true given enabled.cpuTime ∧
    Optional "alloc_samples" Form.Switch true given enabled.allocSamples

/-- The trees of an interval: its milliseconds, which fit 64 bits. -/
abbrev Duration.form : Form Duration := Form.Made Duration.ofMillis (Form.Natural UInt64.toNat)

/-- **The trees of a configuration**, in range or not. -/
def Configuration.form : Form Configuration := fun tree configuration =>
  ∃ given, Gives ["enabled_metrics", "max_frames", "flush_interval"] tree given ∧
    Optional "enabled_metrics" EnabledMetrics.form {} given configuration.enabledMetrics ∧
    Optional "max_frames" (Form.Natural UInt64.toNat) 400 given configuration.maxFrames ∧
    Optional "flush_interval" Duration.form (.ofMillis 60000) given configuration.flushInterval

/-! ## Readers -/

theorem EnabledMetrics.reads : EnabledMetrics.shape.reader.Reads EnabledMetrics.form := by
  have h : EnabledMetrics.shape.reader.Reads
      (EnabledMetrics.shape.form (Form.Switch, Form.Switch, ())) :=
    Shape.reads ⟨Reader.reads_boolean, Reader.reads_boolean, trivial⟩ (by decide)
  refine h.congr fun tree enabled => ⟨?_, ?_⟩
  · rintro ⟨given, ⟨cpuTime, allocSamples, _⟩, hgives, ⟨hcpu, halloc, -⟩, rfl⟩
    exact ⟨given, hgives, Field.holds_optional.1 hcpu, Field.holds_optional.1 halloc⟩
  · rintro ⟨given, hgives, hcpu, halloc⟩
    exact ⟨given, (enabled.cpuTime, enabled.allocSamples, ()), hgives,
      ⟨Field.holds_optional.2 hcpu, Field.holds_optional.2 halloc, trivial⟩, rfl⟩

/-- The forms of the fields of a configuration. -/
abbrev Configuration.forms : Forms Configuration.shape.fields :=
  (EnabledMetrics.form, Form.Natural UInt64.toNat, Duration.form, ())

theorem Configuration.readsAll : ReadsAll Configuration.shape.fields Configuration.forms :=
  ⟨EnabledMetrics.reads, Reader.reads_count, Reader.reads_word64.map _, trivial⟩

theorem Configuration.shape_form_iff {tree : Tree} {configuration : Configuration} :
    Configuration.shape.form Configuration.forms tree configuration ↔
      Configuration.form tree configuration := by
  constructor
  · rintro ⟨given, ⟨enabled, maxFrames, interval, _⟩, hgives, ⟨henabled, hframes, hinterval, -⟩,
      rfl⟩
    exact ⟨given, hgives, Field.holds_optional.1 henabled, Field.holds_optional.1 hframes,
      Field.holds_optional.1 hinterval⟩
  · rintro ⟨given, hgives, henabled, hframes, hinterval⟩
    exact ⟨given, (configuration.enabledMetrics, configuration.maxFrames,
      configuration.flushInterval, ()), hgives,
      ⟨Field.holds_optional.2 henabled, Field.holds_optional.2 hframes,
        Field.holds_optional.2 hinterval, trivial⟩, rfl⟩

theorem Configuration.reads : Configuration.shape.reader.Reads Configuration.form :=
  (Shape.reads Configuration.readsAll (by decide)).congr fun _ _ => Configuration.shape_form_iff

namespace Configuration

/-- **What the check of a configuration comes to**: the budget is looked at first, the interval
only if that is in range. -/
theorem validate_cases (configuration : Configuration) :
    (maxFramesLimit < configuration.maxFrames.toNat ∧
      configuration.validate = .error (.invalidMaxFrames configuration.maxFrames)) ∨
    (configuration.maxFrames.toNat ≤ maxFramesLimit ∧ configuration.flushInterval < .ofMillis 1 ∧
      configuration.validate = .error (.flushIntervalTooShort configuration.flushInterval)) ∨
    (configuration.maxFrames.toNat ≤ maxFramesLimit ∧
      ¬ configuration.flushInterval < .ofMillis 1 ∧ configuration.validate = .ok ()) := by
  rw [validate]
  split
  · next hlimit => exact .inl ⟨hlimit, rfl⟩
  · next hlimit =>
    split
    · next hshort => exact .inr (.inl ⟨Nat.not_lt.1 hlimit, hshort, rfl⟩)
    · next hshort => exact .inr (.inr ⟨Nat.not_lt.1 hlimit, hshort, rfl⟩)

/-- A configuration is in range exactly if its budget and its interval are. -/
theorem validate_eq_ok_iff {configuration : Configuration} :
    configuration.validate = .ok () ↔ configuration.maxFrames.toNat ≤ maxFramesLimit ∧
      Duration.ofMillis 1 ≤ configuration.flushInterval := by
  have hle : Duration.ofMillis 1 ≤ configuration.flushInterval ↔
      ¬ configuration.flushInterval < .ofMillis 1 := Nat.not_lt.symm
  rw [hle]
  rcases configuration.validate_cases with ⟨hlimit, heq⟩ | ⟨-, hshort, heq⟩ | ⟨hlimit, hlong, heq⟩
  · simp [heq, Nat.not_le.2 hlimit]
  · simp [heq, hshort]
  · simp [heq, hlimit, hlong]

/-- It is refused for its budget exactly if that is past the limit. -/
theorem validate_eq_invalidMaxFrames_iff {configuration : Configuration} {maxFrames : UInt64} :
    configuration.validate = .error (.invalidMaxFrames maxFrames) ↔
      maxFramesLimit < configuration.maxFrames.toNat ∧ maxFrames = configuration.maxFrames := by
  rcases configuration.validate_cases with ⟨hlimit, heq⟩ | ⟨hlimit, -, heq⟩ | ⟨hlimit, -, heq⟩
  · simp [heq, hlimit, eq_comm]
  · simp [heq, Nat.not_lt.2 hlimit]
  · simp [heq, Nat.not_lt.2 hlimit]

/-- And for its interval exactly if that is too short while the budget is in range. -/
theorem validate_eq_flushIntervalTooShort_iff {configuration : Configuration}
    {interval : Duration} :
    configuration.validate = .error (.flushIntervalTooShort interval) ↔
      configuration.maxFrames.toNat ≤ maxFramesLimit ∧
        configuration.flushInterval < .ofMillis 1 ∧ interval = configuration.flushInterval := by
  rcases configuration.validate_cases with ⟨hlimit, heq⟩ | ⟨hlimit, hshort, heq⟩ |
    ⟨-, hlong, heq⟩
  · simp [heq, Nat.not_le.2 hlimit]
  · simp [heq, hlimit, hshort, eq_comm]
  · simp [heq, hlong]

/-- Where a text is that of a configuration, it is accepted if that is in range. -/
theorem ofJson_of_whole {s : List Char} {configuration : Configuration}
    (h : shape.reader.whole s = .ok configuration) :
    ofJson s = configuration.validate.map fun _ => configuration := by
  rw [ofJson, h]
  cases hvalid : configuration.validate <;> simp [hvalid, Except.map]

/-- What cannot be read is refused before it is looked whether it is in range. -/
theorem ofJson_of_whole_error {s : List Char} {fault : Fault}
    (h : shape.reader.whole s = .error fault) : ofJson s = .error (.unreadable fault) := by
  rw [ofJson, h]

/-- **A text is accepted exactly where it is that of a tree** which stands for a
configuration in range. -/
theorem ofJson_eq_ok_iff (s : List Char) (configuration : Configuration) :
    ofJson s = .ok configuration ↔
      (∃ tree, IsText s tree ∧ form tree configuration) ∧ configuration.validate = .ok () := by
  rw [← Configuration.reads.whole_eq_ok_iff]
  constructor
  · intro h
    cases hread : shape.reader.whole s with
    | error fault =>
      rw [ofJson, hread] at h
      cases h
    | ok other =>
      rw [ofJson_of_whole hread] at h
      cases hvalid : other.validate with
      | error error =>
        rw [hvalid] at h
        cases h
      | ok =>
        rw [hvalid] at h
        cases h
        exact ⟨rfl, hvalid⟩
  · rintro ⟨hread, hvalid⟩
    rw [ofJson_of_whole hread, hvalid]
    rfl

end Configuration

end StackProfiler
