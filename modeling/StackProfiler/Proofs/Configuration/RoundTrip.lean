import StackProfiler.Proofs.Configuration.Rendering
import StackProfiler.Proofs.Json.Writing
/-!
# Configurations — saved and reloaded

A configuration is written with its interval in milliseconds, of which the text keeps 64
bits. So a configuration in range is read back with its interval in whole milliseconds as
long as these fit 64 bits, and only then: the range has no upper end, and of a longer
interval a shorter one comes back, or the text is refused because nothing is left.
-/

namespace StackProfiler

open Json

/-! ## Milliseconds -/

namespace Duration

/-- The duration without its fraction of a millisecond. -/
def inMillis (d : Duration) : Duration :=
  ⟨d.nanos / 1_000_000 * 1_000_000, by have := d.nanos_lt; omega⟩

/-- The milliseconds of the duration fit a word. -/
def FitsWord (d : Duration) : Prop := d.nanos / 1_000_000 < UInt64.size

theorem toNat_millis (d : Duration) : d.millis.toNat = d.nanos / 1_000_000 % UInt64.size :=
  UInt64.toNat_ofNat'

theorem ofMillis_millis {d : Duration} (h : d.FitsWord) : ofMillis d.millis = d.inMillis := by
  rw [ofMillis, inMillis, mk.injEq, toNat_millis, Nat.mod_eq_of_lt h]

/-- Milliseconds that do not fit are lost. -/
theorem ofMillis_millis_lt {d : Duration} (h : ¬ d.FitsWord) : ofMillis d.millis < d.inMillis := by
  have hmod : d.nanos / 1_000_000 % UInt64.size < UInt64.size := Nat.mod_lt _ (by decide)
  have hfits : UInt64.size ≤ d.nanos / 1_000_000 := Nat.not_lt.1 h
  show d.millis.toNat * 1_000_000 < d.nanos / 1_000_000 * 1_000_000
  rw [toNat_millis]
  omega

theorem ofMillis_millis_le (d : Duration) : ofMillis d.millis ≤ d.inMillis := by
  by_cases h : d.FitsWord
  · rw [ofMillis_millis h]
    exact Nat.le_refl _
  · exact Nat.le_of_lt (ofMillis_millis_lt h)

theorem millis_ofMillis (n : UInt64) : (ofMillis n).millis = n := by
  have hcancel : (ofMillis n).nanos / 1_000_000 = n.toNat := Nat.mul_div_cancel _ (by decide)
  rw [millis, hcancel, UInt64.ofNat_toNat]

/-- Only no milliseconds at all are too few. -/
theorem ofMillis_one_le_iff (n : UInt64) : ofMillis 1 ≤ ofMillis n ↔ n ≠ 0 := by
  have hzero : n = 0 ↔ n.toNat = 0 := UInt64.toNat_inj.symm
  have hle : ofMillis 1 ≤ ofMillis n ↔ 1 * 1_000_000 ≤ n.toNat * 1_000_000 := Iff.rfl
  rw [hle, ne_eq, hzero]
  omega

end Duration

/-! ## Writing -/

theorem EnabledMetrics.writes : Writes EnabledMetrics.write EnabledMetrics.form := by
  intro enabled
  obtain ⟨cpu, hcpu, hcpuForm⟩ := writes_switch enabled.cpuTime
  obtain ⟨alloc, halloc, hallocForm⟩ := writes_switch enabled.allocSamples
  have hmembers : List.Forall₂ MemberText
      [("cpu_time", writeBool enabled.cpuTime), ("alloc_samples", writeBool enabled.allocSamples)]
      [("cpu_time", cpu), ("alloc_samples", alloc)] :=
    .cons ⟨rfl, hcpu⟩ (.cons ⟨rfl, halloc⟩ .nil)
  obtain ⟨tree, htree, hgives⟩ := exists_tree_of_writeObject hmembers _
  exact ⟨tree, htree, _, hgives, .inl ⟨cpu, rfl, hcpuForm⟩, .inl ⟨alloc, rfl, hallocForm⟩⟩

namespace Configuration

/-- The configuration with its interval in whole milliseconds. -/
def inMillis (configuration : Configuration) : Configuration :=
  { configuration with flushInterval := configuration.flushInterval.inMillis }

/-- What the text of a configuration says: the interval has the milliseconds that fit. -/
def written (configuration : Configuration) : Configuration :=
  { configuration with flushInterval := .ofMillis configuration.flushInterval.millis }

theorem writes_written (configuration : Configuration) :
    ∃ tree, Spells tree configuration.write ∧ form tree configuration.written := by
  obtain ⟨enabled, henabled, henabledForm⟩ := EnabledMetrics.writes configuration.enabledMetrics
  obtain ⟨frames, hframes, hframesForm⟩ :=
    writes_natural UInt64.toNat configuration.maxFrames
  obtain ⟨interval, hinterval, hintervalForm⟩ :=
    writes_natural UInt64.toNat configuration.flushInterval.millis
  have hmembers : List.Forall₂ MemberText
      [("enabled_metrics", configuration.enabledMetrics.write),
        ("max_frames", writeNat configuration.maxFrames.toNat),
        ("flush_interval", writeNat configuration.flushInterval.millis.toNat)]
      [("enabled_metrics", enabled), ("max_frames", frames), ("flush_interval", interval)] :=
    .cons ⟨rfl, henabled⟩ (.cons ⟨rfl, hframes⟩ (.cons ⟨rfl, hinterval⟩ .nil))
  obtain ⟨tree, htree, hgives⟩ := exists_tree_of_writeObject hmembers _
  exact ⟨tree, htree, _, hgives, .inl ⟨enabled, rfl, henabledForm⟩,
    .inl ⟨frames, rfl, hframesForm⟩, .inl ⟨interval, rfl, .value hintervalForm⟩⟩

/-! ## Reloading -/

/-- **A text that was written is read**: what it says, if that is in range. -/
theorem ofJson_write (configuration : Configuration) :
    ofJson configuration.write = configuration.written.validate.map fun _ =>
      configuration.written := by
  obtain ⟨tree, htree, hform⟩ := configuration.writes_written
  refine ofJson_of_whole (Configuration.reads.whole_eq_ok_iff.2 ⟨tree, ?_, hform⟩)
  exact ⟨[], configuration.write, [], by simp, blank_nil, htree, blank_nil⟩

section InRange

variable {configuration : Configuration} (hvalid : configuration.validate = .ok ())
include hvalid

/-- What is written of a configuration in range is in range if its interval is. -/
theorem validate_written :
    configuration.written.validate = if configuration.flushInterval.millis = 0 then
      .error (.flushIntervalTooShort (.ofMillis 0)) else .ok () := by
  have hframes := (validate_eq_ok_iff.1 hvalid).1
  split
  · next hzero =>
    have hinterval : configuration.written.flushInterval = .ofMillis 0 :=
      congrArg Duration.ofMillis hzero
    have hlimit : ¬ maxFramesLimit < configuration.written.maxFrames.toNat := Nat.not_lt.2 hframes
    rw [validate, if_neg hlimit, hinterval, if_pos (by decide)]
  · next hpos =>
    exact validate_eq_ok_iff.2 ⟨hframes, (Duration.ofMillis_one_le_iff _).2 hpos⟩

/-- Milliseconds that fit are some. -/
theorem millis_ne_zero (hfits : configuration.flushInterval.FitsWord) :
    configuration.flushInterval.millis ≠ 0 := by
  have hlong : 1 * 1_000_000 ≤ configuration.flushInterval.nanos :=
    (validate_eq_ok_iff.1 hvalid).2
  intro hzero
  have hmillis := configuration.flushInterval.toNat_millis
  rw [hzero, Nat.mod_eq_of_lt hfits, UInt64.toNat_zero] at hmillis
  omega

/-- Whatever is read back is what was written. -/
theorem ofJson_write_eq_ok_iff {reloaded : Configuration} :
    ofJson configuration.write = .ok reloaded ↔
      configuration.flushInterval.millis ≠ 0 ∧ reloaded = configuration.written := by
  rw [ofJson_write, validate_written hvalid]
  split
  · next hzero => simp [hzero, Except.map]
  · next hpos => simp [hpos, Except.map, eq_comm]

end InRange

/-- **What saving and reloading does** to a configuration. -/
structure Reloads (configuration : Configuration) : Prop where
  /-- The text is JSON, and says what fits of the configuration. -/
  text : ∃ tree, Spells tree configuration.write ∧ form tree configuration.written
  /-- The configuration comes back in whole milliseconds as long as these fit a word, and
  only then. -/
  restored_iff : ofJson configuration.write = .ok configuration.inMillis ↔
    configuration.flushInterval.FitsWord
  /-- It is refused where nothing is left of its milliseconds. -/
  refused_iff : (∃ error, ofJson configuration.write = .error error) ↔
    configuration.flushInterval.millis = 0
  refused_as : ∀ error, ofJson configuration.write = .error error →
    error = .flushIntervalTooShort (.ofMillis 0)
  /-- Nothing but the interval changes, and that does not grow. -/
  bounded : ∀ reloaded, ofJson configuration.write = .ok reloaded →
    reloaded.enabledMetrics = configuration.enabledMetrics ∧
      reloaded.maxFrames = configuration.maxFrames ∧
      reloaded.flushInterval ≤ configuration.flushInterval.inMillis
  /-- What was reloaded is reloaded unchanged. -/
  settled : ∀ reloaded, ofJson configuration.write = .ok reloaded →
    ofJson reloaded.write = .ok reloaded

/-- **A configuration in range is reloaded as it was saved**, in whole milliseconds, if these
fit 64 bits. -/
theorem reloads_of_valid (configuration : Configuration)
    (hvalid : configuration.validate = .ok ()) : configuration.Reloads where
  text := configuration.writes_written
  restored_iff := by
    rw [ofJson_write_eq_ok_iff hvalid]
    constructor
    · rintro ⟨-, hsame⟩
      by_contra hlong
      have hless := Duration.ofMillis_millis_lt hlong
      have hinterval : configuration.flushInterval.inMillis =
          .ofMillis configuration.flushInterval.millis := congrArg flushInterval hsame
      rw [hinterval] at hless
      exact Nat.lt_irrefl _ hless
    · intro hfits
      refine ⟨millis_ne_zero hvalid hfits, ?_⟩
      rw [inMillis, written, Duration.ofMillis_millis hfits]
  refused_iff := by
    rw [ofJson_write, validate_written hvalid]
    split
    · next hzero => simp [hzero, Except.map]
    · next hpos => simp [hpos, Except.map]
  refused_as := by
    intro error herror
    rw [ofJson_write, validate_written hvalid] at herror
    split at herror
    · exact (Except.error.inj herror).symm
    · cases herror
  bounded := by
    intro reloaded hreload
    obtain ⟨-, rfl⟩ := (ofJson_write_eq_ok_iff hvalid).1 hreload
    exact ⟨rfl, rfl, Duration.ofMillis_millis_le _⟩
  settled := by
    intro reloaded hreload
    obtain ⟨hpos, rfl⟩ := (ofJson_write_eq_ok_iff hvalid).1 hreload
    -- its milliseconds are those that were written
    have hagain : configuration.written.written = configuration.written := by
      rw [written, written, Duration.millis_ofMillis]
    rw [ofJson_write, hagain, validate_written hvalid, if_neg hpos]
    rfl

/-- A configuration whose interval is no whole number of milliseconds. -/
def withFraction : Configuration where
  enabledMetrics := { allocSamples := false }
  maxFrames := 64
  flushInterval := ⟨1_500_000, by decide⟩

-- half a millisecond is cut off, and nothing else
theorem reloads_withFraction :
    withFraction.validate = .ok () ∧
      ofJson withFraction.write = .ok { withFraction with flushInterval := .ofMillis 1 } := by
  have hvalid : withFraction.validate = .ok () := by decide
  have hfits : withFraction.flushInterval.FitsWord := by
    show 1_500_000 / 1_000_000 < UInt64.size
    decide
  exact ⟨hvalid, (reloads_of_valid withFraction hvalid).restored_iff.2 hfits⟩

/-- A configuration in range whose interval is one millisecond longer than those that fit. -/
def longInterval : Configuration where
  flushInterval := ⟨18_446_744_073_709_551_616_000_000, by decide⟩

-- its text says that the interval is zero
theorem longInterval_refused :
    longInterval.validate = .ok () ∧
      ofJson longInterval.write = .error (.flushIntervalTooShort (.ofMillis 0)) := by
  have hvalid : longInterval.validate = .ok () := by decide
  have hzero : longInterval.flushInterval.millis = 0 := by decide
  refine ⟨hvalid, ?_⟩
  rw [ofJson_write, validate_written hvalid, if_pos hzero]
  rfl

end Configuration

end StackProfiler
