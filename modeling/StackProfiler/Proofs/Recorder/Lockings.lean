import StackProfiler.Proofs.Recorder.Conservation
/-!
# Recorders — flushes that take their lock

The steps by which flushes take the lock of the slot that was active, among all
that happens to a recorder in use (`Traffic.lockings`). No flush takes such a lock
twice (`nodup_lockings`), while no recording is in a slot at most one of the two is
locked (`Orderly.other_free`), and a slot becomes locked then by such a step only
(`locked_or_locking`).
-/

namespace StackProfiler

/-- Whether a flush has taken the lock of the old slot. -/
def Flush.hasLocked {P : Type} : Flush P → Bool
  | .entering | .looking | .stamping .. | .opening .. | .locking .. => false
  | .switching .. | .taking .. | .leaving _ | .done _ => true

namespace Traffic

variable {P : Type} [ProfileStore P]

/-! ## Actions one after the other -/

theorem after_append (traffic : Traffic P) (actions rest : List Action) :
    traffic.after (actions ++ rest) = (traffic.after actions).after rest :=
  List.foldl_append

theorem after_concat (traffic : Traffic P) (actions : List Action) (action : Action) :
    traffic.after (actions ++ [action]) =
      ((traffic.after actions).step? action).getD (traffic.after actions) :=
  List.foldl_concat ..

/-- What some actions leave is left by some actions after one step more. -/
theorem exists_after_of_step {start traffic traffic' : Traffic P}
    (hreached : ∃ actions, traffic = start.after actions)
    (hstep : traffic' = traffic ∨ ∃ action, traffic.step? action = some traffic') :
    ∃ actions, traffic' = start.after actions := by
  obtain ⟨actions, rfl⟩ := hreached
  rcases hstep with hsame | ⟨action, hnext⟩
  · exact ⟨actions, hsame⟩
  · refine ⟨actions ++ [action], ?_⟩
    rw [after_concat, hnext]
    rfl

/-- The flush that takes the lock of its old slot by an action, with that slot. -/
def locking? (traffic : Traffic P) : Action → Option (Nat × SlotId)
  | .flushStep i _ =>
    match traffic.flushes[i]?.map FlushCall.phase with
    | some (.locking old _) =>
      if (traffic.recorder.slot old).locked then none else some (i, old)
    | _ => none
  | .record _ | .recordStep | .flush _ => none

/-- **The flushes that take the lock of their old slot** while some actions are
taken, in order, each with that slot. -/
def lockings (traffic : Traffic P) : List Action → List (Nat × SlotId)
  | [] => []
  | action :: actions =>
    (traffic.locking? action).toList ++ ((traffic.step? action).getD traffic).lockings actions

theorem lockings_append (traffic : Traffic P) (actions rest : List Action) :
    traffic.lockings (actions ++ rest) =
      traffic.lockings actions ++ (traffic.after actions).lockings rest := by
  induction actions generalizing traffic with
  | nil => rfl
  | cons action actions ih =>
    rw [List.cons_append, lockings, ih, lockings, List.append_assoc]
    rfl

theorem lockings_concat (traffic : Traffic P) (actions : List Action) (action : Action) :
    traffic.lockings (actions ++ [action]) =
      traffic.lockings actions ++ ((traffic.after actions).locking? action).toList := by
  rw [lockings_append, lockings, lockings, List.append_nil]

omit [ProfileStore P] in
/-- Who takes a lock was waiting for it and finds it free. -/
theorem locking?_eq_some_iff {traffic : Traffic P} {action : Action} {i : Nat} {old : SlotId} :
    traffic.locking? action = some (i, old) ↔ ∃ now call moment, action = .flushStep i now ∧
      traffic.flushes[i]? = some call ∧ call.phase = .locking old moment ∧
      (traffic.recorder.slot old).locked = false := by
  constructor
  · intro h
    cases action with
    | flushStep j now =>
      simp only [locking?] at h
      split at h
      · next old' moment hphase =>
        obtain ⟨call, hcall, hlocking⟩ := Option.map_eq_some_iff.1 hphase
        split at h
        · cases h
        · next hfree =>
          obtain ⟨rfl, rfl⟩ := Prod.mk.inj (Option.some.inj h)
          exact ⟨now, call, moment, rfl, hcall, hlocking, Bool.eq_false_iff.2 hfree⟩
      · cases h
    | _ => cases h
  · rintro ⟨now, call, moment, rfl, hcall, hlocking, hfree⟩
    simp [locking?, hcall, hlocking, hfree]

/-! ## No flush locks twice -/

/-- A flush of this number has taken the lock of its old slot. -/
def HasLocked (traffic : Traffic P) (i : Nat) : Prop :=
  ∃ call, traffic.flushes[i]? = some call ∧ call.phase.hasLocked = true

/-- What a flush has taken it does not give back. -/
theorem HasLocked.step {traffic traffic' : Traffic P} {action : Action} {i : Nat}
    (h : traffic.HasLocked i) (hstep : traffic.step? action = some traffic') :
    traffic'.HasLocked i := by
  obtain ⟨call, hcall, hlocked⟩ := h
  rcases step?_cases hstep with ⟨sample, -, -, rfl⟩ | ⟨sample, recording, -, -, rfl⟩ |
    ⟨finish, -, rfl⟩ | ⟨j, now, other, phase, recorder, -, hother, hphase, rfl⟩
  · exact ⟨call, hcall, hlocked⟩
  · exact ⟨call, hcall, hlocked⟩
  · exact ⟨call, getElem?_concat_eq_some_iff.2 (.inl hcall), hlocked⟩
  · rw [HasLocked, flushes_flushStep hother]
    by_cases hij : i = j
    · subst hij
      obtain rfl := Option.some.inj (hcall.symm.trans hother)
      refine ⟨_, if_pos rfl, ?_⟩
      show phase.hasLocked = true
      generalize call.phase = before at hlocked hphase
      cases Flush.makes_of_step? hphase <;> first | rfl | cases hlocked
    · exact ⟨call, by rw [if_neg hij, hcall], hlocked⟩

/-- **A flush that takes its lock** had not taken it before and has afterwards. -/
theorem hasLocked_of_locking? {traffic : Traffic P} {action : Action} {i : Nat} {old : SlotId}
    (h : traffic.locking? action = some (i, old)) :
    ¬ traffic.HasLocked i ∧ ∃ traffic', traffic.step? action = some traffic' ∧
      traffic'.HasLocked i := by
  obtain ⟨now, call, moment, rfl, hcall, hlocking, hfree⟩ := locking?_eq_some_iff.1 h
  constructor
  · rintro ⟨other, hother, hlocked⟩
    obtain rfl := Option.some.inj (hcall.symm.trans hother)
    rw [hlocking] at hlocked
    cases hlocked
  · refine ⟨traffic.flushStep i call (.switching old moment)
      (traffic.recorder.setLocked old true), ?_, ?_⟩
    · simp [step?, hcall, hlocking, Flush.step?, hfree]
    · exact ⟨_, by rw [flushes_flushStep hcall, if_pos rfl], rfl⟩

/-- **No flush takes its lock twice**, nor one that had taken it before. -/
theorem nodup_lockings (traffic : Traffic P) (actions : List Action) :
    ((traffic.lockings actions).map Prod.fst).Nodup ∧
      ∀ i ∈ (traffic.lockings actions).map Prod.fst, ¬ traffic.HasLocked i := by
  induction actions generalizing traffic with
  | nil => exact ⟨List.nodup_nil, fun i hmem => absurd hmem List.not_mem_nil⟩
  | cons action actions ih =>
    obtain ⟨hnodup, hrest⟩ := ih ((traffic.step? action).getD traffic)
    have hkept : ∀ i, traffic.HasLocked i → ((traffic.step? action).getD traffic).HasLocked i := by
      intro i hlocked
      cases hstep : traffic.step? action with
      | none => exact hlocked
      | some traffic' => exact hlocked.step hstep
    rw [lockings, List.map_append]
    cases hlocking : traffic.locking? action with
    | none => exact ⟨hnodup, fun i hmem hlocked => hrest i hmem (hkept i hlocked)⟩
    | some lock =>
      obtain ⟨hnew, traffic', hstep, hlocked⟩ := hasLocked_of_locking? hlocking
      rw [hstep] at hnodup hrest hkept ⊢
      refine ⟨List.nodup_cons.2 ⟨fun hmem => hrest _ hmem hlocked, hnodup⟩, ?_⟩
      intro i hmem
      rcases List.mem_cons.1 hmem with rfl | hmem
      · exact hnew
      · exact fun hbefore => hrest i hmem (hkept i hbefore)

/-! ## Which slot is locked -/

omit [ProfileStore P] in
/-- **While no recording is in a slot, one slot is free.** -/
theorem Orderly.other_free {traffic : Traffic P} (h : traffic.Orderly)
    (hholding : traffic.holding = none) {id : SlotId}
    (hlocked : (traffic.recorder.slot id).locked = true) :
    (traffic.recorder.slot id.other).locked = false := by
  obtain ⟨turn, hpoised⟩ := h.exists_poised
  have hreserved : ∀ slot, (traffic.recorder.slot slot).locked = true →
      turn.reserved? traffic.recorder.active = some slot := by
    intro slot hslot
    rcases (hpoised.guarded.locked_iff slot).1 hslot with hreserved | hheld
    · exact hreserved
    · rw [hholding] at hheld
      cases hheld
  refine Bool.eq_false_iff.2 fun hother => ?_
  -- both would be the one that is held back
  have hsame := (hreserved id hlocked).symm.trans (hreserved id.other hother)
  exact id.ne_other (Option.some.inj hsame)

/-- **A step of a flush locks no slot** but the one whose lock it takes. -/
theorem locked_or_locking {traffic : Traffic P} {i : Nat} {call : FlushCall P}
    (hcall : traffic.flushes[i]? = some call) {now : Instant} {phase : Flush P}
    {recorder : Recorder P}
    (hstep : call.phase.step? call.finish now traffic.recorder = some (phase, recorder))
    {id : SlotId} (hlocked : (recorder.slot id).locked = true) :
    (traffic.recorder.slot id).locked = true ∨
      traffic.locking? (.flushStep i now) = some (i, id) := by
  have hkept : ∀ (slot : SlotId) (store : P),
      ((traffic.recorder.setStore slot store).slot id).locked =
        (traffic.recorder.slot id).locked := by
    intro slot store
    rw [Recorder.setStore, Recorder.slot_setSlot]
    by_cases hid : id = slot
    · rw [if_pos hid, hid]
    · rw [if_neg hid]
  obtain ⟨finish, since, before, took⟩ := call
  cases Flush.makes_of_step? hstep with
  | enter hfree =>
    cases id <;> exact .inl hlocked
  | look => exact .inl hlocked
  | stamp old moment => exact .inl ((hkept ..).symm.trans hlocked)
  | unlock old moment =>
    rw [Recorder.setLocked, Recorder.slot_setSlot] at hlocked
    by_cases hid : id = old.other
    · rw [if_pos hid] at hlocked
      cases hlocked
    · rw [if_neg hid] at hlocked
      exact .inl hlocked
  | lock old moment hfree =>
    rw [Recorder.setLocked, Recorder.slot_setSlot] at hlocked
    by_cases hid : id = old
    · rw [hid]
      exact .inr (locking?_eq_some_iff.2 ⟨now, _, moment, rfl, hcall, rfl, hfree⟩)
    · rw [if_neg hid] at hlocked
      exact .inl hlocked
  | switch old moment => cases id <;> exact .inl hlocked
  | take old moment => exact .inl ((hkept ..).symm.trans hlocked)
  | leave flushed => cases id <;> exact .inl hlocked

end Traffic

end StackProfiler
