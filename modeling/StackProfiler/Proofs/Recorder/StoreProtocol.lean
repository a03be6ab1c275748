import Mathlib.Computability.Language
import Mathlib.Order.CompletePartialOrder
import StackProfiler.Proofs.Recorder.Steady
/-!
# Recorders — what a store can rely on

The store of slot one takes samples until it is reset, and again from each stamp
to the next reset; that of slot two begins with a stamp (`SlotId.protocol`). While
calls do not overlap, the stores of a recorder are told nothing else
(`Watched.FollowsProtocol`): a stamp never meets a store to which something has
been added, a sample goes to the store that was opened last, and a flush stamps
the one store and resets the other with the same instant.
-/

namespace StackProfiler

open scoped Computability

/-! ## The life of a store -/

/-- The kinds of what a store is told. -/
inductive StoreEvent.Kind
  | new
  | add
  | setStartTime
  | reset

/-- The kind of an event. -/
def StoreEvent.kind : StoreEvent → Kind
  | .new .. => .new
  | .call (.add _) => .add
  | .call (.setStartTime _) => .setStartTime
  | .call (.reset _) => .reset

namespace SlotId

/-- **The life of the store of a slot**, up to where it may end. -/
def protocol : SlotId → Language StoreEvent.Kind
  | .one => {[.new]} * {[.add]}∗ * ({[.reset]} * {[.setStartTime]} * {[.add]}∗)∗
  | .two => {[.new]} * ({[.setStartTime]} * {[.add]}∗ * {[.reset]})∗

/-- What a store has been told while it takes samples. -/
def takingWords : SlotId → Language StoreEvent.Kind
  | .one => protocol .one
  | .two => protocol .two * {[.setStartTime]} * {[.add]}∗

/-- What a store has been told before it is stamped. -/
def spentWords : SlotId → Language StoreEvent.Kind
  | .one => protocol .one * {[.reset]}
  | .two => protocol .two

section Words

variable {Letter : Type} {l block : Language Letter}

/-- What may stand behind a language may stand behind any number of such. -/
theorem mul_le_of_mul_self_le {tail : Language Letter} (hl : l * tail ≤ l)
    (hblock : block * tail ≤ block) : l * block∗ * tail ≤ l * block∗ := by
  have hsplit : l * block∗ = l + l * block∗ * block := by
    rw [mul_assoc, ← mul_one_add, Language.one_add_kstar_mul_self_eq_kstar]
  calc l * block∗ * tail
      = l * tail + l * block∗ * (block * tail) := by
        nth_rewrite 1 [hsplit]
        rw [add_mul, mul_assoc (l * block∗)]
    _ ≤ l + l * block∗ * block := add_le_add hl (mul_le_mul_right hblock _)
    _ = l * block∗ := hsplit.symm

/-- One repetition more. -/
theorem mul_kstar_mul_self_le : l * block∗ * block ≤ l * block∗ := by
  rw [mul_assoc]
  exact mul_le_mul_right kstar_mul_le_kstar l

/-- What is repeated may be left out. -/
theorem le_mul_kstar : l ≤ l * block∗ := by
  calc l = l * 1 := (mul_one l).symm
    _ ≤ l * block∗ := mul_le_mul_right one_le_kstar l

/-- A word and a letter. -/
theorem concat_mem_mul {word : List Letter} (h : word ∈ l) (letter : Letter) :
    word ++ [letter] ∈ l * {[letter]} :=
  Language.append_mem_mul h rfl

end Words

variable {id : SlotId} {word : List StoreEvent.Kind}

/-- **A store that takes samples** takes another one. -/
theorem concat_add_mem (h : word ∈ takingWords id) : word ++ [.add] ∈ takingWords id := by
  have hmem := concat_mem_mul h .add
  cases id with
  | one =>
    refine mul_le_of_mul_self_le mul_kstar_mul_self_le ?_ hmem
    exact mul_kstar_mul_self_le
  | two => exact mul_kstar_mul_self_le hmem

/-- **It may be reset**, and then waits to be stamped. -/
theorem concat_reset_mem (h : word ∈ takingWords id) : word ++ [.reset] ∈ spentWords id := by
  have hmem := concat_mem_mul h .reset
  cases id with
  | one => exact hmem
  | two =>
    -- a stamp, what has been added and the reset are one repetition
    have hle : takingWords .two * {[.reset]} ≤ protocol .two := by
      rw [takingWords, mul_assoc (protocol .two), mul_assoc (protocol .two)]
      exact mul_kstar_mul_self_le
    exact hle hmem

/-- **When it is stamped** it takes samples again. -/
theorem concat_setStartTime_mem (h : word ∈ spentWords id) :
    word ++ [.setStartTime] ∈ takingWords id := by
  have hmem := concat_mem_mul h .setStartTime
  cases id with
  | one =>
    -- the reset and the stamp are one repetition, in which nothing is added yet
    have hle : spentWords .one * {[.setStartTime]} ≤ protocol .one := by
      rw [spentWords, mul_assoc]
      exact (mul_le_mul_right le_mul_kstar _).trans mul_kstar_mul_self_le
    exact hle hmem
  | two => exact le_mul_kstar hmem

/-- **Both are parts of its life**, cut off where it may go on. -/
theorem exists_rest_of_takingWords (h : word ∈ takingWords id) :
    ∃ rest, word ++ rest ∈ id.protocol := by
  cases id with
  | one => exact ⟨[], by rwa [List.append_nil]⟩
  | two => exact ⟨[.reset], concat_reset_mem h⟩

theorem exists_rest_of_spentWords (h : word ∈ spentWords id) :
    ∃ rest, word ++ rest ∈ id.protocol := by
  cases id with
  | one => exact ⟨[.setStartTime], concat_setStartTime_mem h⟩
  | two => exact ⟨[], by rwa [List.append_nil]⟩

end SlotId

/-! ## Histories -/

namespace History

/-- **What opens a store**: that it is made for slot one, or stamped. -/
inductive Opens : SlotId × StoreEvent → Prop
  | new (valueTypes : List Metric) (startTime : Instant) : Opens (.one, .new valueTypes startTime)
  | stamp (id : SlotId) (startTime : Instant) : Opens (id, .call (.setStartTime startTime))

/-- **The store of this slot was opened last**, and has not been reset since. -/
def OpenedLast (history : History) (id : SlotId) : Prop :=
  ∃ before opening after, history = before ++ (id, opening) :: after ∧ Opens (id, opening) ∧
    (∀ event ∈ after, ¬ Opens event) ∧ ∀ startTime, (id, .call (.reset startTime)) ∉ after

/-- **No stamp meets a store to which something has been added** since it was made
or last reset. -/
def StampsSpent (history : History) : Prop :=
  ∀ (before : History) (id : SlotId) (startTime : Instant),
    before ++ [(id, .call (.setStartTime startTime))] <+: history →
    before.added id = []

variable {history : History} {id : SlotId}

theorem openedLast_made (valueTypes : List Metric) (startTime : Instant) :
    (made valueTypes startTime).OpenedLast .one := by
  refine ⟨[], .new valueTypes startTime, [(.two, .new valueTypes startTime)], rfl,
    .new valueTypes startTime, ?_, ?_⟩
  · intro event hmem hopens
    obtain rfl := List.mem_singleton.1 hmem
    cases hopens
  · intro startTime' hmem
    cases List.mem_singleton.1 hmem

/-- Additions do not open stores. -/
theorem OpenedLast.concat_add (h : history.OpenedLast id) (sample : Sample) :
    OpenedLast (history ++ [(id, .call (.add sample))]) id := by
  obtain ⟨before, opening, after, rfl, hopens, hlater, hreset⟩ := h
  refine ⟨before, opening, after ++ [(id, .call (.add sample))], by simp, hopens, ?_, ?_⟩
  · intro event hmem
    rcases List.mem_append.1 hmem with hmem | hmem
    · exact hlater event hmem
    · obtain rfl := List.mem_singleton.1 hmem
      intro hopens
      cases hopens
  · intro startTime hmem
    rcases List.mem_append.1 hmem with hmem | hmem
    · exact hreset startTime hmem
    · cases List.mem_singleton.1 hmem

/-- A stamp opens the one store, and the reset that follows it is the other's. -/
theorem openedLast_flip (history : History) (id : SlotId) (now : Instant) :
    OpenedLast (history ++
      [(id.other, .call (.setStartTime now)), (id, .call (.reset now))]) id.other := by
  refine ⟨history, .call (.setStartTime now), [(id, .call (.reset now))], rfl,
    .stamp id.other now, ?_, ?_⟩
  · intro event hmem hopens
    obtain rfl := List.mem_singleton.1 hmem
    cases hopens
  · intro startTime hmem
    exact id.ne_other (Prod.mk.inj (List.mem_singleton.1 hmem)).1.symm

theorem stampsSpent_made (valueTypes : List Metric) (startTime : Instant) :
    (made valueTypes startTime).StampsSpent := by
  intro before id startTime' hprefix
  -- neither of the two events is a stamp
  have hmem : (id, StoreEvent.call (.setStartTime startTime')) ∈ made valueTypes startTime :=
    hprefix.subset (List.mem_append_right _ (List.mem_singleton.2 rfl))
  simp [made] at hmem

/-- What is told next may be anything but a stamp. -/
theorem StampsSpent.concat (h : history.StampsSpent) {event : StoreEvent}
    (hstamp : ∀ startTime, event = .call (.setStartTime startTime) → history.added id = []) :
    StampsSpent (history ++ [(id, event)]) := by
  intro before id' startTime hprefix
  rcases List.prefix_concat_iff.1 hprefix with heq | hprefix
  · obtain ⟨rfl, hlast⟩ := List.append_inj' heq rfl
    obtain ⟨rfl, rfl⟩ := Prod.mk.inj (List.singleton_inj.1 hlast)
    exact hstamp startTime rfl
  · exact h before id' startTime hprefix

end History

/-! ## Watched recorders -/

namespace Watched

variable {P : Type} [ProfileStore P]

/-- **What the stores of a recorder can rely on**, and what the next call tells
them. -/
structure FollowsProtocol (watched : Watched P) : Prop where
  /-- Each store lives as the protocol says, up to now. -/
  lives : ∀ id, ∃ rest, (watched.history.told id).map StoreEvent.kind ++ rest ∈ id.protocol
  stamps : watched.history.StampsSpent
  /-- The stores are what they have been told. -/
  faithful : watched.Faithful
  /-- A recording adds its sample to the store that was opened last. -/
  record : ∀ sample, ∃ id after, watched.call? (.record sample) = some (.recorded (.ok ()), after) ∧
    after.history = watched.history ++ [(id, .call (.add sample))] ∧
    watched.history.OpenedLast id
  /-- A flush stamps the store that was held back and resets the one that was
  active, with the instant at which the next period begins; it returns what the
  reset gave, with the start that this had. -/
  flush : ∀ finish now, ∃ flushed after,
    watched.call? (.flush finish now) = some (.flushed flushed, after) ∧
    flushed.finish = finish ∧ flushed.nextStart = now ∧
    after.history = watched.history ++
      [(watched.recorder.active.other, .call (.setStartTime flushed.nextStart)),
        (watched.recorder.active, .call (.reset flushed.nextStart))] ∧
    flushed.profile = (ProfileStore.reset flushed.nextStart
      (watched.recorder.slot watched.recorder.active).store).1 ∧
    flushed.start = ProfileStore.startTime flushed.profile
  /-- After a fork two new stores begin from the start. -/
  resetAfterFork : ∀ now, ∃ after,
    watched.call? (.resetAfterFork now) = some (.reset, after) ∧
    after.history = .made watched.recorder.valueTypes now

/-- What makes a settled recorder follow the protocol: the active store takes
samples, and the other one waits to be stamped. -/
structure Alternates (watched : Watched P) : Prop where
  spared : watched.Spared
  taking : (watched.history.told watched.recorder.active).map StoreEvent.kind ∈
    watched.recorder.active.takingWords
  spent : (watched.history.told watched.recorder.active.other).map StoreEvent.kind ∈
    watched.recorder.active.other.spentWords
  opened : watched.history.OpenedLast watched.recorder.active
  stamps : watched.history.StampsSpent

theorem alternates_new (enabled : EnabledMetrics) (now : Instant) :
    (new enabled now : Watched P).Alternates where
  spared := spared_new enabled now
  taking := SlotId.le_mul_kstar (SlotId.le_mul_kstar rfl)
  spent := SlotId.le_mul_kstar rfl
  opened := History.openedLast_made ..
  stamps := History.stampsSpent_made enabled.valueTypes now

namespace Alternates

variable {watched : Watched P} (h : watched.Alternates)
include h

/-- A recording leaves the stores in their turns. -/
theorem added (hsettled : watched.recorder.Settled) (sample : Sample) :
    (watched.added sample).Alternates := by
  have hactive : (watched.added sample).recorder.active = watched.recorder.active :=
    watched.recorder.active_setSlot ..
  have hne := watched.recorder.active.ne_other
  have hhistory : (watched.added sample).history =
      watched.history ++ [(watched.recorder.active, .call (.add sample))] := rfl
  refine ⟨h.spared.afterCall hsettled (.record sample), ?_, ?_, ?_, ?_⟩
  · rw [hactive, hhistory, History.told_concat_self, List.map_append]
    exact SlotId.concat_add_mem h.taking
  · rw [hactive, hhistory, History.told_concat_of_ne hne]
    exact h.spent
  · rw [hactive, hhistory]
    exact h.opened.concat_add sample
  · rw [hhistory]
    exact h.stamps.concat fun startTime heq => by cases heq

/-- A flush turns them round. -/
theorem flipped (hsettled : watched.recorder.Settled) (finish now : Instant) :
    (watched.flipped now).Alternates := by
  have hactive : (watched.flipped now).recorder.active = watched.recorder.active.other := rfl
  have hne := watched.recorder.active.ne_other
  have hhistory : (watched.flipped now).history =
      watched.history ++ [(watched.recorder.active.other, .call (.setStartTime now))] ++
        [(watched.recorder.active, .call (.reset now))] := by
    rw [List.append_assoc]
    rfl
  refine ⟨h.spared.afterCall hsettled (.flush finish now), ?_, ?_, ?_, ?_⟩
  · rw [hactive, hhistory, History.told_concat_of_ne hne, History.told_concat_self,
      List.map_append]
    exact SlotId.concat_setStartTime_mem h.spent
  · rw [hactive, SlotId.other_other, hhistory, History.told_concat_self,
      History.told_concat_of_ne (Ne.symm hne), List.map_append]
    exact SlotId.concat_reset_mem h.taking
  · exact History.openedLast_flip ..
  · rw [hhistory]
    -- the store that is stamped is the one held back, to which nothing has been added
    have hstamped : History.StampsSpent (watched.history ++
        [(watched.recorder.active.other, .call (.setStartTime now))]) :=
      h.stamps.concat fun _ _ => h.spared.spare
    exact hstamped.concat fun startTime heq => by cases heq

/-- **Every call leaves the stores in their turns.** -/
theorem afterCall (hsettled : watched.recorder.Settled) (call : RecorderCall) :
    (watched.afterCall call).Alternates := by
  cases call with
  | record sample => exact h.added hsettled sample
  | flush finish now => exact h.flipped hsettled finish now
  | resetAfterFork now => exact alternates_new _ _

/-- Each store lives as the protocol says. -/
theorem lives (id : SlotId) :
    ∃ rest, (watched.history.told id).map StoreEvent.kind ++ rest ∈ id.protocol := by
  by_cases hid : id = watched.recorder.active
  · rw [hid]
    exact SlotId.exists_rest_of_takingWords h.taking
  · rw [SlotId.eq_other_of_ne hid]
    exact SlotId.exists_rest_of_spentWords h.spent

/-- **Stores that take turns on a settled recorder** can rely on the protocol. -/
theorem followsProtocol (hsettled : watched.recorder.Settled) : watched.FollowsProtocol where
  lives := h.lives
  stamps := h.stamps
  faithful := h.spared.faithful
  record := by
    intro sample
    have hcall := (call?_of_settled hsettled (.record sample)).1
    exact ⟨watched.recorder.active, watched.added sample, hcall, rfl, h.opened⟩
  flush := by
    intro finish now
    have hcall := (call?_of_settled hsettled (.flush finish now)).1
    exact ⟨watched.recorder.taken finish now, watched.flipped now, hcall, rfl, rfl, rfl, rfl, rfl⟩
  resetAfterFork := by
    intro now
    have hcall := (call?_of_settled hsettled (.resetAfterFork now)).1
    exact ⟨new watched.recorder.enabled now, hcall, rfl⟩

end Alternates

/-- **Whatever is called on a new recorder**, one call after the other, no call
waits for ever and the stores can rely on the protocol. -/
theorem calls?_followProtocol (enabled : EnabledMetrics) (now : Instant)
    (calls : List RecorderCall) :
    ∃ replies watched, (new enabled now : Watched P).calls? calls = some (replies, watched) ∧
      watched.FollowsProtocol := by
  obtain ⟨replies, watched, hcalls, -, hsettled, halternates⟩ :=
    calls?_induction (P := P) (motive := Alternates) enabled now alternates_new
      (fun _ call hsettled h => h.afterCall hsettled call) calls
  exact ⟨replies, watched, hcalls, halternates.followsProtocol hsettled⟩

end Watched

end StackProfiler
