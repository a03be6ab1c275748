import StackProfiler.Proofs.Recorder.Period
import StackProfiler.Proofs.Recorder.Visits
/-!
# Recorders — what the stores are told

A recorder is watched by writing down what its stores are told: that they are
made, and every call that a step of a call makes on one of them (`Watched`). This
is for stores of any kind. While calls do not overlap, a recording tells the
active store of its sample and a flush stamps the other store and resets the
active one (`Watched.call?_of_settled`); at all times each store is what it has
been told leaves (`Watched.Faithful`).
-/

namespace StackProfiler

/-- What a store of a recorder is told. -/
inductive StoreEvent
  /-- It is made. -/
  | new (valueTypes : List Metric) (startTime : Instant)
  | call (storeCall : StoreCall)
  deriving DecidableEq

namespace StoreEvent

/-- The store after an event, if there was one before or the event made it. -/
def applyTo {P : Type} [ProfileStore P] (store : Option P) : StoreEvent → Option P
  | .new valueTypes startTime => some (ProfileStore.new valueTypes startTime)
  | .call storeCall => store.map storeCall.applyTo

/-- The samples added to a store since it was made or last reset, by those before
the event. -/
def addedAfter (samples : List Sample) : StoreEvent → List Sample
  | .new .. => []
  | .call storeCall => storeCall.pendingAfter samples

end StoreEvent

/-! ## Histories -/

/-- What the two stores of a recorder have been told, in order. -/
abbrev History := List (SlotId × StoreEvent)

namespace History

/-- Two new stores. -/
def made (valueTypes : List Metric) (startTime : Instant) : History :=
  [(.one, .new valueTypes startTime), (.two, .new valueTypes startTime)]

/-- What one of the stores has been told. -/
def told (history : History) (id : SlotId) : List StoreEvent :=
  history.filterMap fun event => if event.1 = id then some event.2 else none

/-- The store that this leaves. -/
def store? {P : Type} [ProfileStore P] (history : History) (id : SlotId) : Option P :=
  (history.told id).foldl StoreEvent.applyTo none

/-- The samples added to a store since it was made or last reset. -/
def added (history : History) (id : SlotId) : List Sample :=
  (history.told id).foldl StoreEvent.addedAfter []

variable {history : History} {id other : SlotId} {event : StoreEvent}

@[simp]
theorem told_concat_self : told (history ++ [(id, event)]) id = history.told id ++ [event] := by
  simp [told]

@[simp]
theorem told_concat_of_ne (h : other ≠ id) :
    told (history ++ [(other, event)]) id = history.told id := by
  simp [told, h]

theorem added_concat_self :
    added (history ++ [(id, event)]) id = event.addedAfter (history.added id) := by
  rw [added, told_concat_self, List.foldl_concat, added]

theorem added_concat_of_ne (h : other ≠ id) :
    added (history ++ [(other, event)]) id = history.added id := by
  rw [added, told_concat_of_ne h, added]

/-- **A store changes by what it is told**, and the other one does not. -/
theorem store?_concat {P : Type} [ProfileStore P] {stores : SlotId → P}
    (h : ∀ id, history.store? id = some (stores id)) (slot : SlotId) (call : StoreCall)
    (id : SlotId) :
    store? (history ++ [(slot, .call call)]) id =
      some (Traffic.storesAfter stores (some (slot, call)) id) := by
  by_cases hid : slot = id
  · subst hid
    rw [store?, told_concat_self, List.foldl_concat]
    show StoreEvent.applyTo (history.store? slot) _ = _
    rw [h slot, Traffic.storesAfter, Function.update_self]
    rfl
  · rw [store?, told_concat_of_ne hid, Traffic.storesAfter, Function.update_of_ne (Ne.symm hid)]
    exact h id

/-- And so for several calls, made in this order. -/
theorem store?_append {P : Type} [ProfileStore P] {stores : SlotId → P}
    (h : ∀ id, history.store? id = some (stores id)) (calls : List (SlotId × StoreCall))
    (id : SlotId) :
    store? (history ++ calls.map fun call => (call.1, .call call.2)) id =
      some (storesAfterAll stores calls id) := by
  induction calls generalizing history stores with
  | nil =>
    rw [List.map_nil, List.append_nil]
    exact h id
  | cons call calls ih =>
    rw [List.map_cons, List.append_cons]
    exact ih (store?_concat h call.1 call.2)

end History

/-! ## Watched recorders -/

/-- A recorder, with what its stores have been told since they were made. -/
structure Watched (P : Type) where
  recorder : Recorder P
  history : History

/-- What a call on a recorder gives back. -/
inductive RecorderReply (P : Type)
  | recorded (outcome : Except RecordError Unit)
  | flushed (flushed : Flushed P)
  | reset

namespace Watched

variable {P : Type} [ProfileStore P]

/-- A new recorder. -/
def new (enabled : EnabledMetrics) (now : Instant) : Watched P where
  recorder := .new enabled now
  history := .made enabled.valueTypes now

/-- What has been told, and then some calls. -/
def heard (watched : Watched P) (calls : List (SlotId × StoreCall)) : History :=
  watched.history ++ calls.map fun call => (call.1, .call call.2)

/-- One call, with what it tells the stores; none if it waits for ever. After a
fork there are two new stores. -/
def call? (watched : Watched P) : RecorderCall → Option (RecorderReply P × Watched P)
  | .record sample =>
    let recorded := (watched.recorder.record sample).value
    some (.recorded recorded.1,
      ⟨recorded.2, watched.heard (Recording.start.storeCalls sample watched.recorder)⟩)
  | .flush finish now =>
    (watched.recorder.flush? finish now).map fun flushed =>
      (.flushed flushed.value.1,
        ⟨flushed.value.2, watched.heard (Flush.entering.storeCalls finish now watched.recorder)⟩)
  | .resetAfterFork now =>
    let recorder := (watched.recorder.resetAfterFork now).value
    some (.reset, ⟨recorder, .made recorder.valueTypes now⟩)

/-- Calls one after the other, with the reply to each. -/
def calls? (watched : Watched P) :
    List RecorderCall → Option (List (RecorderReply P) × Watched P)
  | [] => some ([], watched)
  | call :: calls => do
    let replied ← watched.call? call
    let rest ← replied.2.calls? calls
    return (replied.1 :: rest.1, rest.2)

/-- **Each store is what it has been told leaves.** -/
def Faithful (watched : Watched P) : Prop :=
  ∀ id, watched.history.store? id = some (Traffic.stores watched.recorder id)

theorem faithful_new (enabled : EnabledMetrics) (now : Instant) :
    (new enabled now : Watched P).Faithful := by
  intro id
  cases id <;> rfl

/-- **Every call leaves it so**: on its way it changes the stores by its calls only. -/
theorem Faithful.call? {watched watched' : Watched P} (h : watched.Faithful)
    {call : RecorderCall} {reply : RecorderReply P}
    (hcall : watched.call? call = some (reply, watched')) : watched'.Faithful := by
  cases call with
  | record sample =>
    obtain ⟨-, rfl⟩ := Prod.mk.inj (Option.some.inj hcall)
    intro id
    rw [heard, History.store?_append h, ← Recording.stores_run, Recorder.record]
  | flush finish now =>
    obtain ⟨flushed, hflushed, heq⟩ := Option.map_eq_some_iff.1 hcall
    obtain ⟨-, rfl⟩ := Prod.mk.inj heq
    intro id
    rw [heard, History.store?_append h, ← Flush.stores_run hflushed]
  | resetAfterFork now =>
    obtain ⟨-, rfl⟩ := Prod.mk.inj (Option.some.inj hcall)
    exact faithful_new watched.recorder.enabled now

end Watched

/-! ## Calls on a settled recorder -/

namespace Recording

variable {P : Type} [ProfileStore P] {recorder : Recorder P}

/-- The way of a recording that tries an open slot. -/
theorem visits_of_open (sample : Sample) (round : Nat) {slot : SlotId}
    (hopen : (recorder.slot slot).locked = false) :
    ((trying round slot).visits sample recorder).map Prod.fst =
      [.trying round slot, .adding slot, .releasing slot] := by
  have hstep : (trying round slot).step sample recorder =
      (.adding slot, recorder.setLocked slot true) := by
    simp [step, hopen]
  rw [visits_of_outcome?_eq_none _ _ rfl, hstep, visits_of_outcome?_eq_none _ _ rfl, step,
    visits_of_outcome?_eq_none _ _ rfl, step, visits_done]
  rfl

/-- One that finds slot one locked goes on to slot two. -/
theorem visits_of_locked (sample : Sample) (round : Nat)
    (hlocked : (recorder.slot .one).locked = true) :
    (trying round .one).visits sample recorder =
      (.trying round .one, recorder) :: (trying round .two).visits sample recorder := by
  have hstep : (trying round .one).step sample recorder = (.trying round .two, recorder) := by
    simp [step, hlocked, afterMiss]
  rw [visits_of_outcome?_eq_none _ _ rfl, hstep]

/-- What a recording tells the stores is said by where it stands on its way. -/
theorem storeCalls_eq (sample : Sample) (recorder : Recorder P) (recording : Recording) :
    recording.storeCalls sample recorder =
      ((recording.visits sample recorder).map Prod.fst).filterMap
        fun recording => recording.storeCall? sample := by
  rw [storeCalls, List.filterMap_map]
  rfl

end Recording

namespace Recorder.Settled

variable {P : Type} [ProfileStore P] {recorder : Recorder P} (h : recorder.Settled)
include h

/-- **The way of a recording**: it finds the active slot open in the first round. -/
theorem visits_record (sample : Sample) :
    (Recording.start.visits sample recorder).map Prod.fst =
      match recorder.active with
      | .one => [.trying 0 .one, .adding .one, .releasing .one]
      | .two => [.trying 0 .one, .trying 0 .two, .adding .two, .releasing .two] := by
  have hopen := h.active_open
  have hlocked := h.other_locked
  cases hactive : recorder.active with
  | one =>
    rw [hactive] at hopen
    exact Recording.visits_of_open sample 0 hopen
  | two =>
    rw [hactive] at hopen hlocked
    rw [Recording.start, Recording.visits_of_locked sample 0 hlocked, List.map_cons,
      Recording.visits_of_open sample 0 hopen]

/-- **A recording tells the active store of its sample**, and nothing else. -/
theorem storeCalls_record (sample : Sample) :
    Recording.start.storeCalls sample recorder = [(recorder.active, .add sample)] := by
  rw [Recording.storeCalls_eq, h.visits_record sample]
  cases recorder.active <;> rfl

/-- **The way of a flush**: it goes through all its states, and finds the slot that
was active open. -/
theorem visits_flush (finish now : Instant) :
    (Flush.entering.visits finish now recorder).map Prod.fst =
      [.entering, .looking, .stamping recorder.active now, .opening recorder.active now,
        .locking recorder.active now, .switching recorder.active now,
        .taking recorder.active now, .leaving (recorder.taken finish now)] := by
  obtain ⟨enabled, ⟨locked₁, store₁⟩, ⟨locked₂, store₂⟩, active, flushing, dropped⟩ := recorder
  obtain ⟨hflushing, hopen, -⟩ := h
  obtain rfl : flushing = false := hflushing
  cases active with
  | one =>
    obtain rfl : locked₁ = false := hopen
    -- the eight steps, none of which has to wait, and the end
    iterate 9
      rw [Flush.visits_eq]
      simp only [Flush.result?, Flush.step?, slot, setSlot, setLocked, setStore, SlotId.other,
        Bool.false_eq_true, if_false, Option.elim]
    rfl
  | two =>
    obtain rfl : locked₂ = false := hopen
    iterate 9
      rw [Flush.visits_eq]
      simp only [Flush.result?, Flush.step?, slot, setSlot, setLocked, setStore, SlotId.other,
        Bool.false_eq_true, if_false, Option.elim]
    rfl

/-- **A flush stamps the store that was held back and resets the one that was
active**, with the same instant. -/
theorem storeCalls_flush (finish now : Instant) :
    Flush.entering.storeCalls finish now recorder =
      [(recorder.active.other, .setStartTime now), (recorder.active, .reset now)] := by
  have hcalls : Flush.entering.storeCalls finish now recorder =
      ((Flush.entering.visits finish now recorder).map Prod.fst).filterMap Flush.storeCall? := by
    rw [Flush.storeCalls, List.filterMap_map]
    rfl
  rw [hcalls, h.visits_flush finish now]
  rfl

end Recorder.Settled

namespace Watched

variable {P : Type} [ProfileStore P]

/-- After a recording on a settled recorder. -/
def added (watched : Watched P) (sample : Sample) : Watched P where
  recorder := watched.recorder.added sample
  history := watched.heard [(watched.recorder.active, .add sample)]

/-- After a flush of a settled recorder. -/
def flipped (watched : Watched P) (now : Instant) : Watched P where
  recorder := watched.recorder.flipped now
  history := watched.heard
    [(watched.recorder.active.other, .setStartTime now), (watched.recorder.active, .reset now)]

/-- The watched recorder after a call, if it was settled. -/
def afterCall (watched : Watched P) : RecorderCall → Watched P
  | .record sample => watched.added sample
  | .flush _ now => watched.flipped now
  | .resetAfterFork now => new watched.recorder.enabled now

/-- The reply to a call, if the recorder was settled. -/
def replyTo (watched : Watched P) : RecorderCall → RecorderReply P
  | .record _ => .recorded (.ok ())
  | .flush finish now => .flushed (watched.recorder.taken finish now)
  | .resetAfterFork _ => .reset

/-- **A call on a settled recorder**: no call waits, every sample is recorded, and
the recorder is settled again. -/
theorem call?_of_settled {watched : Watched P} (h : watched.recorder.Settled)
    (call : RecorderCall) :
    watched.call? call = some (watched.replyTo call, watched.afterCall call) ∧
      (watched.afterCall call).recorder.Settled := by
  cases call with
  | record sample =>
    refine ⟨?_, h.added sample⟩
    rw [call?, h.record_eq sample, h.storeCalls_record sample]
    rfl
  | flush finish now =>
    obtain ⟨flushed, hflushed, hvalue⟩ := Option.map_eq_some_iff.1 (h.flush?_eq finish now)
    refine ⟨?_, h.flipped now⟩
    rw [call?, hflushed, h.storeCalls_flush finish now, Option.map_some, hvalue]
    rfl
  | resetAfterFork now => exact ⟨rfl, Recorder.settled_new watched.recorder.enabled now⟩

/-- A sample that is to be recorded on a settled recorder is. -/
theorem eq_ok_of_replyTo {watched : Watched P} {call : RecorderCall}
    {outcome : Except RecordError Unit} (h : .recorded outcome = watched.replyTo call) :
    outcome = .ok () := by
  cases call with
  | record sample => exact RecorderReply.recorded.inj h
  | flush finish now => cases h
  | resetAfterFork now => cases h

/-- **Whatever holds of a new recorder and is kept by every call** on a settled
recorder holds after any calls; none of them waits and no sample is refused. -/
theorem calls?_induction {motive : Watched P → Prop} (enabled : EnabledMetrics) (now : Instant)
    (hnew : ∀ (enabled : EnabledMetrics) (now : Instant), motive (new enabled now))
    (hcall : ∀ (watched : Watched P) (call : RecorderCall), watched.recorder.Settled →
      motive watched → motive (watched.afterCall call)) (calls : List RecorderCall) :
    ∃ replies watched, (new enabled now).calls? calls = some (replies, watched) ∧
      (∀ outcome, .recorded outcome ∈ replies → outcome = .ok ()) ∧
      watched.recorder.Settled ∧ motive watched := by
  suffices ∀ (calls : List RecorderCall) (watched : Watched P), watched.recorder.Settled →
      motive watched → ∃ replies watched', watched.calls? calls = some (replies, watched') ∧
        (∀ outcome, .recorded outcome ∈ replies → outcome = .ok ()) ∧
        watched'.recorder.Settled ∧ motive watched' from
    this calls (new enabled now) (Recorder.settled_new enabled now) (hnew enabled now)
  intro calls
  induction calls with
  | nil =>
    intro watched hsettled h
    exact ⟨[], watched, rfl, fun _ hmem => absurd hmem List.not_mem_nil, hsettled, h⟩
  | cons call calls ih =>
    intro watched hsettled h
    obtain ⟨hreply, hsettled'⟩ := call?_of_settled hsettled call
    obtain ⟨replies, watched', hcalls, hok, hrest⟩ := ih _ hsettled' (hcall watched call hsettled h)
    refine ⟨watched.replyTo call :: replies, watched', ?_, ?_, hrest⟩
    · rw [calls?, hreply, Option.bind_eq_bind, Option.bind_some, hcalls]
      rfl
    · intro outcome hmem
      rcases List.mem_cons.1 hmem with heq | hmem
      · exact eq_ok_of_replyTo heq
      · exact hok outcome hmem

end Watched

end StackProfiler
