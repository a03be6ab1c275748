import StackProfiler.Profile.Scratch
import StackProfiler.Proofs.Profile.History
/-!
# Profiles that reuse their key — the key does not show

What a profile does with a sample does not depend on the key that it has kept: the numbers
are put into a key that has been cleared, so the key is that of the sample
(`scratch_add`), and the profile is the one that builds it anew (`profile_add`). So to
everyone who makes calls on it a profile that reuses its key is a profile
(`respects_profile`), however stale the key is by then (`profile_after`).
-/

namespace StackProfiler

/-- **A view that calls respect**: what is seen of a store after a call is what the same
call leaves of what is seen before. -/
structure ProfileStore.Respects {P Q : Type} [ProfileStore P] [ProfileStore Q] (view : P → Q) :
    Prop where
  new : ∀ valueTypes startTime,
    view (ProfileStore.new valueTypes startTime) = ProfileStore.new valueTypes startTime
  add : ∀ sample store, view (ProfileStore.add sample store) = ProfileStore.add sample (view store)
  reset : ∀ startTime store, ((ProfileStore.reset startTime store).map view view) =
    ProfileStore.reset startTime (view store)
  startTime : ∀ store, ProfileStore.startTime (view store) = ProfileStore.startTime store
  setStartTime : ∀ startTime store,
    view (ProfileStore.setStartTime startTime store) =
      ProfileStore.setStartTime startTime (view store)
  isEmpty : ∀ store, ProfileStore.isEmpty (view store) = ProfileStore.isEmpty store

/-- One call on a store, seen through such a view. -/
theorem StoreCall.applyTo_view {P Q : Type} [ProfileStore P] [ProfileStore Q] {view : P → Q}
    (h : ProfileStore.Respects view) (call : StoreCall) (store : P) :
    view (call.applyTo store) = call.applyTo (view store) := by
  cases call with
  | add sample => exact h.add sample store
  | setStartTime startTime => exact h.setStartTime startTime store
  | reset startTime => exact congrArg Prod.snd (h.reset startTime store)

/-- **Numbers put one by one** are the numbers of all the items, behind those there were. -/
theorem Table.pushAll_eq {α : Type} [BEq α] [Hashable α] (table : Table α)
    (numbers : List UInt32) (items : List α) :
    table.pushAll numbers items =
      (numbers ++ (table.internAll items).1.map UInt32.ofNat, (table.internAll items).2) := by
  induction items generalizing table numbers with
  | nil => simp [pushAll, internAll]
  | cons item items ih => simp [pushAll, internAll, ih]

namespace ReusingProfile

/-- **What is kept is the key of the sample**, whatever was kept before. -/
theorem scratch_add (reusing : ReusingProfile) (sample : Sample) :
    (reusing.add sample).scratch =
      .ofPositions (reusing.profile.locations.internAll sample.frames).1
        (reusing.profile.labels.internAll sample.labels).1 := by
  simp [add, takeScratch, Table.pushAll_eq, SampleKey.ofPositions]

/-- **A stale key changes nothing** in what is gathered. -/
theorem profile_add (reusing : ReusingProfile) (sample : Sample) :
    (reusing.add sample).profile = reusing.profile.add sample := by
  simp only [add, takeScratch, Table.pushAll_eq, List.nil_append]
  rfl

/-- **To its callers it is a profile.** -/
theorem respects_profile : ProfileStore.Respects profile where
  new := fun _ _ => rfl
  add := fun sample reusing => reusing.profile_add sample
  reset := fun _ _ => rfl
  startTime := fun _ => rfl
  setStartTime := fun _ _ => rfl
  isEmpty := fun _ => rfl

/-- A profile that reuses its key, new, after some calls. -/
def after (valueTypes : List Metric) (start : Instant) (calls : List StoreCall) :
    ReusingProfile :=
  calls.foldl StoreCall.applyTo (ProfileStore.new valueTypes start)

/-- **After any history** it is the profile that builds every key anew. -/
theorem profile_after (valueTypes : List Metric) (start : Instant) (calls : List StoreCall) :
    (after valueTypes start calls).profile = Profile.after valueTypes start calls :=
  (List.foldl_hom profile fun store call =>
    (call.applyTo_view respects_profile store).symm).symm

end ReusingProfile

end StackProfiler
