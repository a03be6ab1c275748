import StackProfiler.Proofs.Profile.Gathered
import StackProfiler.Recorder.Basic
/-!
# Profiles — what a history of calls leaves

Whatever calls are made on a profile, it is the profile that has gathered the
samples added since the last reset, and that starts where the last call that
sets a start says (`after_eq_gathered`).
-/

namespace StackProfiler

namespace StoreCall

/-- A store after a call; what a reset takes out is left aside. -/
def applyTo {P : Type} [ProfileStore P] (store : P) : StoreCall → P
  | .add sample => ProfileStore.add sample store
  | .setStartTime startTime => ProfileStore.setStartTime startTime store
  | .reset startTime => (ProfileStore.reset startTime store).2

/-- The samples that wait in a store after a call, by those before it. -/
def pendingAfter (samples : List Sample) : StoreCall → List Sample
  | .add sample => samples ++ [sample]
  | .setStartTime _ => samples
  | .reset _ => []

/-- The start of a store after a call, by that before it. -/
def startAfter (start : Instant) : StoreCall → Instant
  | .add _ => start
  | .setStartTime startTime => startTime
  | .reset startTime => startTime

end StoreCall

/-- **The samples added since the last reset**, in the order of the calls. -/
def pending (calls : List StoreCall) : List Sample :=
  calls.foldl StoreCall.pendingAfter []

/-- The start that the last call to set one has set. -/
def lastStart (start : Instant) (calls : List StoreCall) : Instant :=
  calls.foldl StoreCall.startAfter start

namespace Profile

/-- A new profile on which the calls have been made. -/
def after (valueTypes : List Metric) (start : Instant) (calls : List StoreCall) : Profile :=
  calls.foldl StoreCall.applyTo (ProfileStore.new valueTypes start)

/-- One call on what has been gathered. -/
theorem applyTo_gathered (valueTypes : List Metric) (start : Instant) (samples : List Sample)
    (call : StoreCall) :
    call.applyTo (gathered valueTypes start samples) =
      gathered valueTypes (call.startAfter start) (call.pendingAfter samples) := by
  cases call with
  | add sample => exact (gathered_concat valueTypes start samples sample).symm
  | setStartTime startTime => exact setStartTime_gathered valueTypes start startTime samples
  | reset startTime =>
    change new (gathered valueTypes start samples).valueTypes startTime = _
    rw [valueTypes_gathered]
    rfl

/-- **A history leaves what it has added since its last reset**, and no trace
of what came before. -/
theorem after_eq_gathered (valueTypes : List Metric) (start : Instant) (calls : List StoreCall) :
    after valueTypes start calls =
      gathered valueTypes (lastStart start calls) (pending calls) := by
  induction calls using List.reverseRecOn with
  | nil => rfl
  | append_singleton calls call ih =>
    have hstep : after valueTypes start (calls ++ [call]) =
        call.applyTo (after valueTypes start calls) := List.foldl_concat ..
    rw [hstep, ih, applyTo_gathered, lastStart, lastStart, pending, pending,
      List.foldl_concat, List.foldl_concat]

end Profile

end StackProfiler
