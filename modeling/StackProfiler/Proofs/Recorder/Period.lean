import StackProfiler.Proofs.Recorder.Settled
import StackProfiler.Proofs.Profile.Aggregation
/-!
# Recorders — one buffer in two slots

To callers whose calls do not overlap, a recorder is one buffer: the samples
that wait to be flushed and the instant since which they have been taken
(`Period`). The two slots, their locks and the starts they are stamped with do
not show: a recorder answers every sequence of calls as that buffer does, because
it stands for it between any two of them (`Recorder.Represents`). The samples that
waited can be read back from what a flush hands out (`Period.exists_flushed`).
-/

namespace StackProfiler

/-- A call on a recorder, with what the clock shows during it. -/
inductive RecorderCall
  | record (sample : Sample)
  | flush (finish now : Instant)
  | resetAfterFork (now : Instant)

/-- What a call gives back. -/
inductive RecorderAnswer
  | recorded (outcome : Except RecordError Unit)
  | flushed (flushed : Flushed Profile)
  | reset

namespace Recorder

/-- One call; none if it waits for ever. -/
def call? (recorder : Recorder Profile) :
    RecorderCall → Option (RecorderAnswer × Recorder Profile)
  | .record sample =>
    let recorded := (recorder.record sample).value
    some (.recorded recorded.1, recorded.2)
  | .flush finish now =>
    ((recorder.flush? finish now).map Logged.value).map fun flushed =>
      (.flushed flushed.1, flushed.2)
  | .resetAfterFork now => some (.reset, (recorder.resetAfterFork now).value)

/-- Calls one after the other, with the answer to each. -/
def calls? (recorder : Recorder Profile) :
    List RecorderCall → Option (List RecorderAnswer × Recorder Profile)
  | [] => some ([], recorder)
  | call :: calls => do
    let answered ← recorder.call? call
    let rest ← answered.2.calls? calls
    return (answered.1 :: rest.1, rest.2)

end Recorder

/-- **One buffer**: the samples that wait to be flushed, and since when they
have been taken. -/
structure Period where
  start : Instant
  samples : List Sample

namespace Period

/-- One call on the buffer. A flush hands out a new profile to which the waiting
samples have been added in order; it and a reset begin a period without
samples. -/
def call (valueTypes : List Metric) (period : Period) : RecorderCall → RecorderAnswer × Period
  | .record sample => (.recorded (.ok ()), ⟨period.start, period.samples ++ [sample]⟩)
  | .flush finish now =>
    let profile := period.samples.foldl Profile.add (Profile.new valueTypes period.start)
    (.flushed ⟨period.start, finish, now, profile⟩, ⟨now, []⟩)
  | .resetAfterFork now => (.reset, ⟨now, []⟩)

/-- Calls one after the other, with the answer to each. -/
def calls (valueTypes : List Metric) (period : Period) :
    List RecorderCall → List RecorderAnswer × Period
  | [] => ([], period)
  | call :: rest =>
    let answered := period.call valueTypes call
    let answers := answered.2.calls valueTypes rest
    (answered.1 :: answers.1, answers.2)

/-- **What waits when a flush is called is what it hands out**: it can be read back from
the profile. -/
theorem exists_flushed (valueTypes : List Metric) (period : Period) {calls : List RecorderCall}
    {i : Nat} {finish now : Instant} (hcall : calls[i]? = some (.flush finish now)) :
    let waiting := (period.calls valueTypes (calls.take i)).2
    ∃ profile, (period.calls valueTypes calls).1[i]? =
        some (.flushed ⟨waiting.start, finish, now, profile⟩) ∧
      profile.Comprises valueTypes waiting.start waiting.samples := by
  induction calls generalizing period i with
  | nil => cases hcall
  | cons call calls ih =>
    cases i with
    | zero =>
      obtain rfl := Option.some.inj hcall
      exact ⟨_, rfl, Profile.comprises_of_eq rfl⟩
    | succ i => exact ih (period.call valueTypes call).2 hcall

end Period

namespace Recorder

/-- **A recorder and the buffer it stands for**: it is settled, the active store
has gathered what waits, and the other store is as new. -/
structure Represents (recorder : Recorder Profile) (enabled : EnabledMetrics)
    (period : Period) : Prop where
  settled : recorder.Settled
  enabled_eq : recorder.enabled = enabled
  active_store : (recorder.slot recorder.active).store =
    Profile.gathered enabled.valueTypes period.start period.samples
  other_store : ∃ start, (recorder.slot recorder.active.other).store =
    Profile.new enabled.valueTypes start
  dropped_eq : recorder.dropped = 0

theorem represents_new (enabled : EnabledMetrics) (now : Instant) :
    (new enabled now : Recorder Profile).Represents enabled ⟨now, []⟩ where
  settled := settled_new enabled now
  enabled_eq := rfl
  active_store := rfl
  other_store := ⟨now, rfl⟩
  dropped_eq := rfl

namespace Represents

variable {recorder : Recorder Profile} {enabled : EnabledMetrics} {period : Period}
variable (h : recorder.Represents enabled period)
include h

/-- **A recording** puts its sample behind those that wait. -/
theorem added (sample : Sample) :
    (recorder.added sample).Represents enabled ⟨period.start, period.samples ++ [sample]⟩ := by
  have hsettled := h.settled.added sample
  obtain ⟨-, henabled, hstore, hother, hdropped⟩ := h
  obtain ⟨enabled', one, two, active, flushing, dropped⟩ := recorder
  have hadd : Profile.gathered enabled.valueTypes period.start (period.samples ++ [sample]) =
      (Profile.gathered enabled.valueTypes period.start period.samples).add sample :=
    Profile.gathered_concat ..
  rw [← hstore] at hadd
  cases active with
  | one => exact ⟨hsettled, henabled, hadd.symm, hother, hdropped⟩
  | two => exact ⟨hsettled, henabled, hadd.symm, hother, hdropped⟩

/-- **A flush hands out what waits**, with its start and the instant at which
the next period begins. -/
theorem taken_eq (finish now : Instant) :
    recorder.taken finish now =
      ⟨period.start, finish, now,
        Profile.gathered enabled.valueTypes period.start period.samples⟩ := by
  have hprofile : (ProfileStore.reset now (recorder.slot recorder.active).store).1 =
      Profile.gathered enabled.valueTypes period.start period.samples := h.active_store
  have hstart : ProfileStore.startTime
      (Profile.gathered enabled.valueTypes period.start period.samples) = period.start :=
    Profile.startTime_gathered ..
  rw [taken, hprofile, hstart]

/-- **After a flush nothing waits**, and the period begins when the flush looked
at the clock. The store it opens is as new up to its start, which it sets. -/
theorem flipped (now : Instant) :
    (recorder.flipped now).Represents enabled ⟨now, []⟩ := by
  have hsettled := h.settled.flipped now
  obtain ⟨-, henabled, hstore, ⟨start, hother⟩, hdropped⟩ := h
  have hopened : ProfileStore.setStartTime now (recorder.slot recorder.active.other).store =
      Profile.gathered enabled.valueTypes now [] := by
    rw [hother]
    rfl
  have hemptied : (ProfileStore.reset now (recorder.slot recorder.active).store).2 =
      Profile.new enabled.valueTypes now := by
    rw [hstore]
    show Profile.new (Profile.gathered _ _ _).valueTypes now = _
    rw [Profile.valueTypes_gathered]
  obtain ⟨enabled', one, two, active, flushing, dropped⟩ := recorder
  cases active with
  | one => exact ⟨hsettled, henabled, hopened, ⟨now, hemptied⟩, hdropped⟩
  | two => exact ⟨hsettled, henabled, hopened, ⟨now, hemptied⟩, hdropped⟩

/-- **One call**: the recorder answers as the buffer does and stands for it
again. -/
theorem call (call : RecorderCall) :
    ∃ recorder', recorder.call? call =
        some ((period.call enabled.valueTypes call).1, recorder') ∧
      recorder'.Represents enabled (period.call enabled.valueTypes call).2 := by
  cases call with
  | record sample =>
    refine ⟨recorder.added sample, ?_, h.added sample⟩
    rw [call?, h.settled.record_eq sample]
    rfl
  | flush finish now =>
    refine ⟨recorder.flipped now, ?_, h.flipped now⟩
    rw [call?, h.settled.flush?_eq finish now, h.taken_eq finish now]
    rfl
  | resetAfterFork now =>
    refine ⟨new enabled now, ?_, represents_new enabled now⟩
    rw [call?, Recorder.resetAfterFork, h.enabled_eq]
    rfl

/-- Calls one after the other. -/
theorem calls (calls : List RecorderCall) :
    ∃ recorder', recorder.calls? calls =
        some ((period.calls enabled.valueTypes calls).1, recorder') ∧
      recorder'.Represents enabled (period.calls enabled.valueTypes calls).2 := by
  induction calls generalizing recorder period with
  | nil => exact ⟨recorder, rfl, h⟩
  | cons call calls ih =>
    obtain ⟨recorder₁, hcall, h₁⟩ := h.call call
    obtain ⟨recorder₂, hcalls, h₂⟩ := ih h₁
    refine ⟨recorder₂, ?_, h₂⟩
    rw [calls?, hcall, Option.bind_eq_bind, Option.bind_some, hcalls]
    rfl

end Represents

/-- **A recorder is one buffer.** Whatever is called on a new recorder, one call
after the other, no call waits for ever and each is answered as by the buffer
that begins empty at the same instant; and the recorder stands for what the
buffer has become. What a flush returns comprises the samples that waited in the
buffer when it was called. -/
theorem calls?_refines (enabled : EnabledMetrics) (now : Instant) (calls : List RecorderCall) :
    let buffered := (Period.mk now []).calls enabled.valueTypes calls
    ∃ recorder, (new enabled now).calls? calls = some (buffered.1, recorder) ∧
      recorder.Represents enabled buffered.2 ∧
      ∀ (i : Nat) (finish now' : Instant), calls[i]? = some (.flush finish now') →
        let waiting := ((Period.mk now []).calls enabled.valueTypes (calls.take i)).2
        ∃ profile, buffered.1[i]? =
            some (.flushed ⟨waiting.start, finish, now', profile⟩) ∧
          profile.Comprises enabled.valueTypes waiting.start waiting.samples := by
  obtain ⟨recorder, hcalls, hrepresents⟩ := (represents_new enabled now).calls calls
  exact ⟨recorder, hcalls, hrepresents, fun _ _ _ hcall => Period.exists_flushed _ _ hcall⟩

end Recorder

end StackProfiler
