import StackProfiler.Proofs.Recorder.Lockings
/-!
# Recorders — why a sample is dropped

A recording tries slot one and slot two, in three rounds. It drops its sample only
if each of the six tries meets a lock, and as no two slots are locked at once, the
lock has moved to the other slot between any two of them: five flushes have come
to take the lock of their old slot in the meantime (`Contested`,
`explained_after`).
-/

namespace StackProfiler

/-- Whether a recording has returned without having recorded its sample. -/
def Recorded.refused (recorded : Recorded) : Bool :=
  match recorded.outcome with
  | .ok _ => false
  | .error _ => true

namespace Traffic

variable {P : Type} [ProfileStore P]

/-! ## Tries -/

/-- After some actions a recording is about to try a slot. -/
structure AtTry (start : Traffic P) (actions : List Action) (number : Nat) (sample : Sample)
    (round : Nat) (slot : SlotId) : Prop where
  recording : (start.after actions).recording = some (sample, .trying round slot)
  number : (start.after actions).recorded.length = number

/-- **Five flushes have taken their lock**, three that of slot two and two that of
slot one. -/
structure FiveLockings (lockings : List (Nat × SlotId)) : Prop where
  two : 3 ≤ (lockings.map Prod.snd).count .two
  one : 2 ≤ (lockings.map Prod.snd).count .one
  distinct : (lockings.map Prod.fst).Nodup

/-- **A recording has been contested**: between its first try and its last, that of
slot two in the third round, five flushes have taken their lock. -/
def Contested (start : Traffic P) (actions : List Action) (number : Nat) (sample : Sample) :
    Prop :=
  ∃ before during rest, actions = before ++ .recordStep :: (during ++ .recordStep :: rest) ∧
    start.AtTry before number sample 0 .one ∧
    start.AtTry (before ++ .recordStep :: during) number sample (slotLockAttempts - 1) .two ∧
    FiveLockings ((start.after (before ++ [.recordStep])).lockings during)

/-- It stays so. -/
theorem Contested.append {start : Traffic P} {actions : List Action} {number : Nat}
    {sample : Sample} (h : start.Contested actions number sample) (more : List Action) :
    start.Contested (actions ++ more) number sample := by
  obtain ⟨before, during, rest, rfl, hfirst, hlast, hfive⟩ := h
  exact ⟨before, during, rest ++ more, by simp, hfirst, hlast, hfive⟩

/-- How often the lock has moved when a recording is about to try a slot: once for
every try but the first, and once more if it is back at the slot that comes next. -/
def Moved (traffic : Traffic P) (lockings : List (Nat × SlotId)) (round : Nat) :
    SlotId → Prop
  | .one => round ≤ (lockings.map Prod.snd).count .two ∧
      round + (traffic.recorder.slot .one).locked.toNat ≤ (lockings.map Prod.snd).count .one + 1
  | .two => round + (traffic.recorder.slot .two).locked.toNat ≤
      (lockings.map Prod.snd).count .two ∧ round ≤ (lockings.map Prod.snd).count .one

omit [ProfileStore P] in
/-- **Who locks is counted**: while others make steps, a slot becomes locked only
with one more in the list. -/
theorem Moved.mono {traffic traffic' : Traffic P} {lockings : List (Nat × SlotId)} {round : Nat}
    {slot : SlotId} (h : traffic.Moved lockings round slot) (lock : Option (Nat × SlotId))
    (hlocked : ∀ id, (traffic'.recorder.slot id).locked = true →
      (traffic.recorder.slot id).locked = true ∨ ∃ i, lock = some (i, id)) :
    traffic'.Moved (lockings ++ lock.toList) round slot := by
  have hcount : ∀ id, (lockings.map Prod.snd).count id ≤
      ((lockings ++ lock.toList).map Prod.snd).count id := by
    intro id
    rw [List.map_append, List.count_append]
    exact Nat.le_add_right _ _
  have hmoved : ∀ id, (lockings.map Prod.snd).count id + (traffic'.recorder.slot id).locked.toNat ≤
      ((lockings ++ lock.toList).map Prod.snd).count id +
        (traffic.recorder.slot id).locked.toNat := by
    intro id
    cases hid : (traffic'.recorder.slot id).locked with
    | false =>
      have := hcount id
      simp only [Bool.toNat_false]
      omega
    | true =>
      rcases hlocked id hid with hbefore | ⟨i, rfl⟩
      · have := hcount id
        rw [hbefore]
        omega
      · simp only [List.map_append, List.count_append, Option.toList_some, List.map_cons,
          List.map_nil, List.count_singleton_self, Bool.toNat_true]
        omega
  cases slot with
  | one =>
    have htwo := hcount .two
    have hone := hmoved .one
    obtain ⟨h₁, h₂⟩ := h
    exact ⟨by omega, by omega⟩
  | two =>
    have hone := hcount .one
    have htwo := hmoved .two
    obtain ⟨h₁, h₂⟩ := h
    exact ⟨by omega, by omega⟩

/-- **A try that meets a lock** changes nothing but the recording. -/
theorem after_recordStep_of_locked {start : Traffic P} {actions : List Action} {sample : Sample}
    {round : Nat} {slot : SlotId}
    (hrecording : (start.after actions).recording = some (sample, .trying round slot))
    (hlocked : ((start.after actions).recorder.slot slot).locked = true) :
    start.after (actions ++ [.recordStep]) =
      { start.after actions with recording := some (sample, .afterMiss round slot) } := by
  have hmissed : (Recording.trying round slot).step sample (start.after actions).recorder =
      (.afterMiss round slot, (start.after actions).recorder) := by
    rw [Recording.step, if_pos hlocked]
  have hnext : (Recording.afterMiss round slot).outcome? = none := by
    cases slot with
    | one => rfl
    | two =>
      rw [Recording.afterMiss]
      split <;> rfl
  rw [after_concat, step?, hrecording]
  simp [recordStep, hmissed, hnext, Recording.storeCall?, stored]

/-- **Since its first try** a recording has seen the lock move from try to try. -/
def MovedSince (start : Traffic P) (actions : List Action) (sample : Sample) (round : Nat)
    (slot : SlotId) : Prop :=
  ∃ before during, actions = before ++ .recordStep :: during ∧
    start.AtTry before (start.after actions).recorded.length sample 0 .one ∧
    (start.after actions).Moved ((start.after (before ++ [.recordStep])).lockings during) round slot

/-- One action more, after which the lock has moved as it should for the same try or
for another one. -/
theorem MovedSince.concat {start : Traffic P} {actions : List Action} {sample : Sample}
    {round round' : Nat} {slot slot' : SlotId} (h : start.MovedSince actions sample round slot)
    {action : Action}
    (hrecorded : (start.after (actions ++ [action])).recorded = (start.after actions).recorded)
    (hmoved : ∀ lockings, (start.after actions).Moved lockings round slot →
      (start.after (actions ++ [action])).Moved
        (lockings ++ ((start.after actions).locking? action).toList) round' slot') :
    start.MovedSince (actions ++ [action]) sample round' slot' := by
  obtain ⟨before, during, hactions, hfirst, hbefore⟩ := h
  have hafter : start.after actions = (start.after (before ++ [.recordStep])).after during := by
    rw [hactions, ← after_append, List.append_assoc, List.singleton_append]
  refine ⟨before, during ++ [action], ?_, ?_, ?_⟩
  · rw [hactions, List.append_assoc, List.cons_append]
  · rw [hrecorded]
    exact hfirst
  · rw [lockings_concat, ← hafter]
    exact hmoved _ hbefore

/-- **Every dropped sample is explained**, and so is every try of one that may be. -/
structure Explained (start : Traffic P) (actions : List Action) : Prop where
  trying : ∀ sample round slot,
    (start.after actions).recording = some (sample, .trying round slot) →
    round < slotLockAttempts ∧
      ((round = 0 ∧ slot = .one) ∨ start.MovedSince actions sample round slot)
  dropping : ∀ sample, (start.after actions).recording = some (sample, .dropping) →
    start.Contested actions (start.after actions).recorded.length sample
  refused : ∀ number sample error,
    (start.after actions).recorded[number]? = some ⟨sample, .error error⟩ →
      start.Contested actions number sample

theorem explained_nil (enabled : EnabledMetrics) (now : Instant) :
    (new enabled now : Traffic P).Explained [] where
  trying := by
    intro sample round slot htrying
    cases htrying
  dropping := by
    intro sample hdropping
    cases hdropping
  refused := by
    intro number sample error hrefused
    cases hrefused

namespace Explained

variable {start : Traffic P} {actions : List Action} (h : start.Explained actions)
include h

/-- **While others make steps** nothing is tried and nothing is dropped. -/
theorem others {action : Action}
    (hrecording : (start.after (actions ++ [action])).recording = (start.after actions).recording)
    (hrecorded : (start.after (actions ++ [action])).recorded = (start.after actions).recorded)
    (hlocked : ∀ id, ((start.after (actions ++ [action])).recorder.slot id).locked = true →
      ((start.after actions).recorder.slot id).locked = true ∨
        ∃ i, (start.after actions).locking? action = some (i, id)) :
    start.Explained (actions ++ [action]) where
  trying := by
    intro sample round slot htrying
    rw [hrecording] at htrying
    obtain ⟨hround, hmoved⟩ := h.trying sample round slot htrying
    refine ⟨hround, hmoved.imp_right fun hmoved => ?_⟩
    exact hmoved.concat hrecorded fun lockings hbefore => hbefore.mono _ hlocked
  dropping := by
    intro sample hdropping
    rw [hrecording] at hdropping
    rw [hrecorded]
    exact (h.dropping sample hdropping).append [action]
  refused := by
    intro number sample error hrefused
    rw [hrecorded] at hrefused
    exact (h.refused number sample error hrefused).append [action]

/-- **A recording goes on** without having returned. -/
theorem goesOn {action : Action} {sample : Sample} {recording : Recording}
    (hrecording : (start.after (actions ++ [action])).recording = some (sample, recording))
    (hrecorded : (start.after (actions ++ [action])).recorded = (start.after actions).recorded)
    (htrying : ∀ round slot, recording = .trying round slot → round < slotLockAttempts ∧
      ((round = 0 ∧ slot = .one) ∨ start.MovedSince (actions ++ [action]) sample round slot))
    (hdropping : recording = .dropping →
      start.Contested (actions ++ [action]) (start.after actions).recorded.length sample) :
    start.Explained (actions ++ [action]) where
  trying := by
    intro sample' round slot htried
    obtain ⟨rfl, hphase⟩ := Prod.mk.inj (Option.some.inj (hrecording.symm.trans htried))
    exact htrying round slot hphase
  dropping := by
    intro sample' hdropped
    obtain ⟨rfl, hphase⟩ := Prod.mk.inj (Option.some.inj (hrecording.symm.trans hdropped))
    rw [hrecorded]
    exact hdropping hphase
  refused := by
    intro number sample' error hrefused
    rw [hrecorded] at hrefused
    exact (h.refused number sample' error hrefused).append [action]

/-- **A recording returns.** -/
theorem returns {action : Action} {recorded : Recorded}
    (hrecording : (start.after (actions ++ [action])).recording = none)
    (hrecorded : (start.after (actions ++ [action])).recorded =
      (start.after actions).recorded ++ [recorded])
    (hrefused : ∀ error, recorded.outcome = .error error →
      start.Contested actions (start.after actions).recorded.length recorded.sample) :
    start.Explained (actions ++ [action]) where
  trying := by
    intro sample round slot htrying
    rw [hrecording] at htrying
    cases htrying
  dropping := by
    intro sample hdropping
    rw [hrecording] at hdropping
    cases hdropping
  refused := by
    intro number sample error hnumber
    rw [hrecorded] at hnumber
    rcases getElem?_concat_eq_some_iff.1 hnumber with hbefore | ⟨rfl, rfl⟩
    · exact (h.refused number sample error hbefore).append [action]
    · exact (hrefused error rfl).append [action]

/-- **A try of slot one meets a lock.** As slot two is free then, a lock has to be
taken there before the next try can meet one. -/
theorem misses_one {sample : Sample} {round : Nat}
    (hrecording : (start.after actions).recording = some (sample, .trying round .one))
    (hlocked : ((start.after actions).recorder.slot .one).locked = true)
    (hother : ((start.after actions).recorder.slot .two).locked = false) :
    start.Explained (actions ++ [.recordStep]) := by
  obtain ⟨hround, hmoved⟩ := h.trying sample round .one hrecording
  have hstep := after_recordStep_of_locked hrecording hlocked
  have hrecorded := congrArg recorded hstep
  refine h.goesOn (congrArg recording hstep) hrecorded ?_ ?_
  · intro round' slot' hnext
    obtain ⟨rfl, rfl⟩ := Recording.trying.inj hnext
    refine ⟨hround, .inr ?_⟩
    rcases hmoved with ⟨rfl, -⟩ | hmoved
    · -- the first try
      refine ⟨actions, [], rfl, ⟨hrecording, by rw [hrecorded]⟩, ?_⟩
      rw [hstep]
      simp [Moved, lockings, hother]
    · refine hmoved.concat hrecorded fun lockings hbefore => ?_
      obtain ⟨htwo, hone⟩ := hbefore
      rw [hlocked, Bool.toNat_true] at hone
      rw [hstep, locking?, Option.toList_none, List.append_nil]
      refine ⟨?_, ?_⟩
      · show round + ((start.after actions).recorder.slot .two).locked.toNat ≤ _
        rw [hother, Bool.toNat_false]
        exact htwo
      · omega
  · intro hnext
    cases hnext

/-- **A try of slot two meets a lock.** As slot one is free then, a lock has to be
taken there before the next try can meet one; after the last round there is none. -/
theorem misses_two {sample : Sample} {round : Nat}
    (hrecording : (start.after actions).recording = some (sample, .trying round .two))
    (hlocked : ((start.after actions).recorder.slot .two).locked = true)
    (hother : ((start.after actions).recorder.slot .one).locked = false) :
    start.Explained (actions ++ [.recordStep]) := by
  obtain ⟨hround, hfirst | hmoved⟩ := h.trying sample round .two hrecording
  · cases hfirst.2
  have hstep := after_recordStep_of_locked hrecording hlocked
  have hrecorded := congrArg recorded hstep
  refine h.goesOn (congrArg recording hstep) hrecorded ?_ ?_
  · intro round' slot' hnext
    rw [Recording.afterMiss] at hnext
    split at hnext
    · next hlast =>
      obtain ⟨rfl, rfl⟩ := Recording.trying.inj hnext
      refine ⟨hlast, .inr (hmoved.concat hrecorded fun lockings hbefore => ?_)⟩
      obtain ⟨htwo, hone⟩ := hbefore
      rw [hlocked, Bool.toNat_true] at htwo
      rw [hstep, locking?, Option.toList_none, List.append_nil]
      refine ⟨htwo, ?_⟩
      show round + 1 + ((start.after actions).recorder.slot .one).locked.toNat ≤ _
      rw [hother, Bool.toNat_false]
      omega
    · cases hnext
  · intro hnext
    rw [Recording.afterMiss] at hnext
    split at hnext
    · cases hnext
    · next hlast =>
      have hround : round = slotLockAttempts - 1 := by omega
      obtain ⟨before, during, rfl, hfirst, htwo, hone⟩ := hmoved
      rw [hlocked, Bool.toNat_true] at htwo
      refine ⟨before, during, [], by simp, hfirst, ⟨?_, rfl⟩, ?_, ?_, ?_⟩
      · rw [← hround]
        exact hrecording
      · have hrounds : slotLockAttempts = 3 := rfl
        omega
      · have hrounds : slotLockAttempts = 3 := rfl
        omega
      · exact (nodup_lockings _ during).1

/-- **A step of the recording** explains whatever it drops. -/
theorem recordStep {sample : Sample} {recording : Recording}
    (horderly : (start.after actions).Orderly) (hgoing : recording.outcome? = none)
    (hrecording : (start.after actions).recording = some (sample, recording)) :
    start.Explained (actions ++ [.recordStep]) := by
  have hstep : start.after (actions ++ [.recordStep]) =
      (start.after actions).recordStep sample recording := by
    rw [after_concat, step?, hrecording]
    rfl
  cases recording with
  | trying round slot =>
    by_cases hlocked : ((start.after actions).recorder.slot slot).locked = true
    · -- no recording is in a slot, so at most one is locked
      have hother := horderly.other_free (by rw [holding, hrecording]; rfl) hlocked
      cases slot with
      | one => exact h.misses_one hrecording hlocked hother
      | two => exact h.misses_two hrecording hlocked hother
    · have htaken : ((Recording.trying round slot).step sample (start.after actions).recorder).1 =
          .adding slot := by
        rw [Recording.step, if_neg hlocked]
      obtain ⟨hnext, hrecorded⟩ := recordStep_of_outcome?_eq_none sample
        (congrArg Recording.outcome? htaken)
      rw [htaken, ← hstep] at hnext
      rw [← hstep] at hrecorded
      refine h.goesOn hnext hrecorded ?_ ?_
      · intro round' slot' hadding
        cases hadding
      · intro hadding
        cases hadding
  | adding slot =>
    refine h.goesOn (congrArg Traffic.recording hstep)
      ((congrArg recorded hstep).trans (List.append_nil _)) ?_ ?_
    · intro round' slot' hnext
      cases hnext
    · intro hnext
      cases hnext
  | releasing slot =>
    refine h.returns (congrArg Traffic.recording hstep) (congrArg recorded hstep) ?_
    intro error herror
    cases herror
  | dropping =>
    refine h.returns (congrArg Traffic.recording hstep) (congrArg recorded hstep) ?_
    intro error herror
    exact h.dropping sample hrecording
  | done outcome => cases hgoing

end Explained

/-- **Every dropped sample is explained at all times.** -/
theorem explained_after (enabled : EnabledMetrics) (now : Instant) (actions : List Action) :
    (new enabled now : Traffic P).Explained actions := by
  induction actions using List.reverseRecOn with
  | nil => exact explained_nil enabled now
  | append_singleton actions action ih =>
    have hafter := after_concat (new enabled now : Traffic P) actions action
    cases hstep : ((new enabled now : Traffic P).after actions).step? action with
    | none =>
      rw [hstep, Option.getD_none] at hafter
      refine ih.others (congrArg recording hafter :) (congrArg recorded hafter :) ?_
      intro id hlocked
      rw [hafter] at hlocked
      exact .inl hlocked
    | some traffic' =>
      rw [hstep, Option.getD_some] at hafter
      rcases step?_cases hstep with ⟨sample, -, hrecording, rfl⟩ |
        ⟨sample, recording, rfl, hrecording, rfl⟩ | ⟨finish, -, rfl⟩ |
        ⟨i, now', call, phase, recorder, rfl, hcall, hphase, rfl⟩
      · refine ih.goesOn (congrArg recording hafter :) (congrArg recorded hafter :) ?_ ?_
        · intro round slot hnext
          obtain ⟨rfl, rfl⟩ := Recording.trying.inj hnext
          exact ⟨by decide, .inl ⟨rfl, rfl⟩⟩
        · intro hnext
          cases hnext
      · exact ih.recordStep (orderly_after enabled now actions)
          ((accounted_after enabled now actions).outcome?_eq_none sample recording hrecording)
          hrecording
      · refine ih.others (congrArg recording hafter :) (congrArg recorded hafter :) ?_
        intro id hlocked
        rw [hafter] at hlocked
        exact .inl hlocked
      · refine ih.others (congrArg recording hafter :) (congrArg recorded hafter :) ?_
        intro id hlocked
        rw [hafter] at hlocked
        exact (locked_or_locking hcall hphase hlocked).imp_right fun hlocking => ⟨i, hlocking⟩

end Traffic

end StackProfiler
