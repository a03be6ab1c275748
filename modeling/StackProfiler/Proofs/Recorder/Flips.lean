import StackProfiler.Proofs.Recorder.Delivery
import StackProfiler.Proofs.Recorder.Lockings
/-!
# Recorders — what is settled when a flush has its lock

From when a flush has taken the lock of the old slot nobody adds to what it takes, and
who returns before it has returned (`HasLocked.after`). So whatever such a flush or one
before it takes had been accepted by then, and a sample that is accepted later stays in a
slot until the flush that comes next takes it (`HasLocked.mem_tookBy_next`,
`HasLocked.mem_held_of_last`).
-/

namespace StackProfiler

/-- The slot that a flush has locked and has still to empty. -/
def Flush.locked? {P : Type} : Flush P → Option SlotId
  | .switching old _ | .taking old _ => some old
  | .entering | .looking | .stamping .. | .opening .. | .locking .. | .leaving _ | .done _ => none

/-- That slot is held back for it. -/
theorem Flush.reserved?_of_locked? {P : Type} {flush : Flush P} {old : SlotId}
    (h : flush.locked? = some old) (active : SlotId) :
    flush.inside = true ∧ flush.reserved? active = some old := by
  cases flush <;> first | exact ⟨rfl, h⟩ | cases h

namespace Traffic

variable {P : Type}

/-- What a flush has taken, and what it has locked to take. -/
def securedBy (traffic : Traffic P) (i : Nat) : List Numbered :=
  traffic.flushes[i]?.elim [] fun call => call.took ++ call.phase.locked?.elim [] traffic.held

/-- **The flush that returned next** after another one. -/
def Follows (traffic : Traffic P) (i j : Nat) : Prop :=
  ∃ before rest, traffic.returned = before ++ i :: j :: rest

/-! ## The order in which flushes return -/

/-- What comes before the first of its kind. -/
theorem takeWhile_append_cons {before : List Nat} {i : Nat} (h : i ∉ before) (rest : List Nat) :
    (before ++ i :: rest).takeWhile (· ≠ i) = before := by
  rw [List.takeWhile_append_of_pos, List.takeWhile_cons_of_neg (by simp), List.append_nil]
  intro j hj
  simp only [decide_eq_true_eq]
  rintro rfl
  exact h hj

/-- Before a flush that has not returned all have that have. -/
theorem returnedBefore_of_notMem {traffic : Traffic P} {i : Nat} (h : i ∉ traffic.returned) :
    traffic.returnedBefore i = traffic.returned := by
  refine List.takeWhile_eq_self_iff.2 fun j hj => ?_
  simp only [decide_eq_true_eq]
  rintro rfl
  exact h hj

/-- What returns later does not come before one that has returned. -/
theorem takeWhile_returned_concat {traffic : Traffic P} {i : Nat} (h : i ∈ traffic.returned)
    (j : Nat) : (traffic.returned ++ [j]).takeWhile (· ≠ i) = traffic.returnedBefore i := by
  rw [List.takeWhile_append, if_neg, returnedBefore]
  intro hlength
  have hall := (List.takeWhile_prefix (l := traffic.returned) (· ≠ i)).eq_of_length hlength
  have hne := List.takeWhile_eq_self_iff.1 hall i h
  simp at hne

/-- **Before a flush that has returned** are those that returned first. -/
theorem returnedBefore_of_append {traffic : Traffic P} {before rest : List Nat} {i : Nat}
    (hreturned : traffic.returned = before ++ i :: rest) (hnodup : traffic.returned.Nodup) :
    traffic.returnedBefore i = before := by
  rw [hreturned] at hnodup
  have hnew := (List.nodup_cons.1 (List.nodup_middle.1 hnodup)).1
  rw [returnedBefore, hreturned,
    takeWhile_append_cons fun hmem => hnew (List.mem_append_left rest hmem)]

/-- Before the next flush there is one more. -/
theorem Follows.returnedBefore_eq {traffic : Traffic P} {i j : Nat} (h : traffic.Follows i j)
    (hnodup : traffic.returned.Nodup) :
    traffic.returnedBefore j = traffic.returnedBefore i ++ [i] := by
  obtain ⟨before, rest, hreturned⟩ := h
  have hsplit : traffic.returned = (before ++ [i]) ++ j :: rest := by rw [hreturned]; simp
  rw [returnedBefore_of_append hreturned hnodup, returnedBefore_of_append hsplit hnodup]

/-- Behind the last one there is none. -/
theorem returned_eq_of_getLast? {traffic : Traffic P} {i : Nat}
    (h : traffic.returned.getLast? = some i) (hnodup : traffic.returned.Nodup) :
    traffic.returned = traffic.returnedBefore i ++ [i] := by
  have hreturned := (List.dropLast_append_getLast? _ h).symm
  rw [returnedBefore_of_append hreturned hnodup, ← hreturned]

namespace Delivered

variable [ProfileStore P] {traffic : Traffic P} (h : traffic.Delivered)
include h

/-- Who can make a step has not returned. -/
theorem notMem_returned_of_step {i : Nat} {call : FlushCall P}
    (hcall : traffic.flushes[i]? = some call) {now : Instant} {next : Flush P × Recorder P}
    (hstep : call.phase.step? call.finish now traffic.recorder = some next) :
    i ∉ traffic.returned := by
  intro hreturned
  obtain ⟨other, hother, hresult⟩ := (h.mem_returned_iff i).1 hreturned
  obtain rfl := Option.some.inj (hcall.symm.trans hother)
  exact Flush.result?_of_step? hstep hresult

/-- **No flush returns twice.** -/
theorem nodup_returned_step (hnodup : traffic.returned.Nodup) {traffic' : Traffic P}
    {action : Action} (hstep : traffic.step? action = some traffic') : traffic'.returned.Nodup := by
  rcases step?_cases hstep with ⟨sample, -, -, rfl⟩ | ⟨sample, recording, -, -, rfl⟩ |
    ⟨finish, -, rfl⟩ | ⟨i, now, call, phase, recorder, -, hcall, hphase, rfl⟩
  · exact hnodup
  · exact hnodup
  · exact hnodup
  · have hnew := h.notMem_returned_of_step hcall hphase
    rw [Traffic.flushStep]
    dsimp only
    split
    · exact List.Nodup.append hnodup (List.nodup_singleton i)
        (List.disjoint_singleton.2 hnew)
    · exact hnodup

omit [ProfileStore P] in
/-- A flush that has returned has had its lock. -/
theorem hasLocked_of_mem_returned {i : Nat} (hi : i ∈ traffic.returned) : traffic.HasLocked i := by
  obtain ⟨call, hcall, hresult⟩ := (h.mem_returned_iff i).1 hi
  refine ⟨call, hcall, ?_⟩
  cases hphase : call.phase with
  | done flushed => rfl
  | _ =>
    rw [hphase] at hresult
    cases hresult

end Delivered

theorem nodup_returned_after [ProfileStore P] (enabled : EnabledMetrics) (now : Instant)
    (actions : List Action) : ((new enabled now : Traffic P).after actions).returned.Nodup :=
  after_induction List.nodup_nil
    (fun actions _ _ hnodup hstep =>
      (delivered_after enabled now actions).nodup_returned_step hnodup hstep) actions

/-! ## A flush that has its lock -/

/-- What is secured was accepted. -/
theorem Accounted.accepted_of_securedBy {traffic : Traffic P} (h : traffic.Accounted) {i : Nat}
    {entry : Numbered} (hmem : entry ∈ traffic.securedBy i) : traffic.Accepted entry := by
  rw [securedBy] at hmem
  cases hcall : traffic.flushes[i]? with
  | none =>
    rw [hcall] at hmem
    cases hmem
  | some call =>
    rw [hcall, Option.elim_some] at hmem
    refine (h.mem_iff entry).1 (mem_everywhere_iff.2 ?_)
    rcases List.mem_append.1 hmem with htook | hlocked
    · exact ⟨.flush i, mem_tookBy_iff.2 ⟨call, hcall, htook⟩⟩
    · cases hslot : call.phase.locked? with
      | none =>
        rw [hslot] at hlocked
        cases hlocked
      | some old =>
        rw [hslot] at hlocked
        exact ⟨.slot old, hlocked⟩

theorem tookBy_subset_securedBy (traffic : Traffic P) (i : Nat) :
    traffic.tookBy i ⊆ traffic.securedBy i := by
  intro entry hmem
  obtain ⟨call, hcall, htook⟩ := mem_tookBy_iff.1 hmem
  rw [securedBy, hcall]
  exact List.mem_append_left _ htook

namespace HasLocked

variable [ProfileStore P] {traffic : Traffic P} {i : Nat}

omit [ProfileStore P] in
/-- A flush with its lock that has not returned is inside. -/
theorem inside_of_notMem (h : traffic.HasLocked i) (hdelivered : traffic.Delivered)
    (hopen : i ∉ traffic.returned) :
    ∃ call, traffic.flushes[i]? = some call ∧ call.phase.inside = true := by
  obtain ⟨call, hcall, hlocked⟩ := h
  refine ⟨call, hcall, ?_⟩
  rcases call.phase.entering_or_inside_or_done with hentering | hinside | hresult
  · rw [hentering] at hlocked
    cases hlocked
  · exact hinside
  · exact absurd ((hdelivered.mem_returned_iff i).2 ⟨call, hcall, hresult⟩) hopen

/-- **What it takes is settled**: no recording is let into the slot it has locked. -/
theorem securedBy_step (h : traffic.HasLocked i) (horderly : traffic.Orderly)
    {traffic' : Traffic P} {action : Action} (hstep : traffic.step? action = some traffic') :
    traffic'.securedBy i = traffic.securedBy i := by
  obtain ⟨call, hcall, hlocked⟩ := h
  rcases step?_cases hstep with ⟨sample, -, -, rfl⟩ | ⟨sample, recording, -, hrecording, rfl⟩ |
    ⟨finish, -, rfl⟩ | ⟨j, now, other, phase, recorder, -, hother, hphase, rfl⟩
  · rfl
  · show traffic.flushes[i]?.elim [] _ = _
    rw [securedBy, hcall, Option.elim_some, Option.elim_some]
    cases hslot : call.phase.locked? with
    | none => rfl
    | some old =>
      obtain ⟨hinside, hreserved⟩ :=
        Flush.reserved?_of_locked? hslot traffic.recorder.active
      have hpoised := horderly.poised_of_inside i call hcall hinside
      refine congrArg (call.took ++ ·) ?_
      show stored traffic.held traffic.recorded.length (recording.storeCall? sample) old =
        traffic.held old
      cases recording with
      | adding slot =>
        have hne : old ≠ slot := by
          rintro rfl
          refine hpoised.guarded.apart old ?_ hreserved
          rw [holding, hrecording]
          rfl
        exact Function.update_of_ne hne _ _
      | _ => rfl
  · show (traffic.flushes ++ _)[i]?.elim [] _ = _
    rw [List.getElem?_append_left (List.getElem?_eq_some_iff.1 hcall).1]
    rfl
  · rw [securedBy, securedBy, flushes_flushStep hother]
    by_cases hij : i = j
    · -- its own steps only move samples from the slot to what it has taken
      subst hij
      obtain rfl := Option.some.inj (hcall.symm.trans hother)
      rw [if_pos rfl, hcall, Option.elim_some, Option.elim_some, FlushCall.stepped,
        Traffic.flushStep]
      generalize call.phase = before at hlocked hphase
      cases Flush.makes_of_step? hphase with
      | switch old moment => simp [Flush.locked?, Flush.storeCall?, found, emptied]
      | take old moment => simp [Flush.locked?, Flush.storeCall?, found]
      | leave flushed => simp [Flush.locked?, Flush.storeCall?, found]
      | _ => cases hlocked
    · -- nobody else makes a step while it has a slot locked
      rw [if_neg hij, hcall, Option.elim_some, Option.elim_some]
      cases hslot : call.phase.locked? with
      | none => rfl
      | some old =>
        have hinside := (Flush.reserved?_of_locked? hslot traffic.recorder.active).1
        rw [horderly.outside_of_step hother hphase hcall hij] at hinside
        cases hinside

/-- **Who returns before it is settled** as well. -/
theorem returnedBefore_step (h : traffic.HasLocked i) (horderly : traffic.Orderly)
    (hdelivered : traffic.Delivered) {traffic' : Traffic P} {action : Action}
    (hstep : traffic.step? action = some traffic') :
    traffic'.returnedBefore i = traffic.returnedBefore i := by
  rcases step?_cases hstep with ⟨sample, -, -, rfl⟩ | ⟨sample, recording, -, -, rfl⟩ |
    ⟨finish, -, rfl⟩ | ⟨j, now, other, phase, recorder, -, hother, hphase, rfl⟩
  · rfl
  · rfl
  · rfl
  · by_cases hreturned : i ∈ traffic.returned
    · rw [returnedBefore, Traffic.flushStep]
      dsimp only
      split
      · exact takeWhile_returned_concat hreturned j
      · rfl
    · -- it is inside, so nobody else returns
      obtain ⟨call, hcall, hinside⟩ := h.inside_of_notMem hdelivered hreturned
      have hij : i = j := by
        by_contra hne
        rw [horderly.outside_of_step hother hphase hcall hne] at hinside
        cases hinside
      subst hij
      rw [returnedBefore_of_notMem hreturned, returnedBefore, Traffic.flushStep]
      dsimp only
      split
      · exact takeWhile_append_cons hreturned []
      · exact returnedBefore_of_notMem hreturned

/-- **Both stay settled** whatever happens. -/
theorem after (h : traffic.HasLocked i) (horderly : traffic.Orderly)
    (haccounted : traffic.Accounted) (hdelivered : traffic.Delivered) (actions : List Action) :
    (traffic.after actions).securedBy i = traffic.securedBy i ∧
      (traffic.after actions).returnedBefore i = traffic.returnedBefore i := by
  have hall : (traffic.after actions).HasLocked i ∧
      ((traffic.after actions).Orderly ∧ (traffic.after actions).Accounted ∧
        (traffic.after actions).Delivered) ∧
      (traffic.after actions).securedBy i = traffic.securedBy i ∧
      (traffic.after actions).returnedBefore i = traffic.returnedBefore i := by
    refine after_induction (motive := fun now => now.HasLocked i ∧
      (now.Orderly ∧ now.Accounted ∧ now.Delivered) ∧ now.securedBy i = traffic.securedBy i ∧
      now.returnedBefore i = traffic.returnedBefore i)
      ⟨h, ⟨horderly, haccounted, hdelivered⟩, rfl, rfl⟩ ?_ actions
    rintro before action traffic' ⟨hlocked, ⟨horderly, haccounted, hdelivered⟩, hsecured, hbefore⟩
      hstep
    exact ⟨hlocked.step hstep,
      ⟨horderly.step hstep, haccounted.step hstep, hdelivered.step horderly haccounted hstep⟩,
      (hlocked.securedBy_step horderly hstep).trans hsecured,
      (hlocked.returnedBefore_step horderly hdelivered hstep).trans hbefore⟩
  exact hall.2.2

variable (h : traffic.HasLocked i) (horderly : traffic.Orderly) (haccounted : traffic.Accounted)
  (hdelivered : traffic.Delivered) (actions : List Action)
include h horderly haccounted hdelivered

/-- **Whatever such a flush takes had been accepted** when it had its lock. -/
theorem accepted_of_mem_tookBy {entry : Numbered}
    (hmem : entry ∈ (traffic.after actions).tookBy i) : traffic.Accepted entry := by
  refine haccounted.accepted_of_securedBy (i := i) ?_
  rw [← (h.after horderly haccounted hdelivered actions).1]
  exact tookBy_subset_securedBy _ i hmem

/-- So it is with the flushes that return before it. -/
theorem accepted_of_returnedBefore {j : Nat}
    (hj : j ∈ (traffic.after actions).returnedBefore i ++ [i]) {entry : Numbered}
    (hmem : entry ∈ (traffic.after actions).tookBy j) : traffic.Accepted entry := by
  rcases List.mem_append.1 hj with hj | hj
  · rw [(h.after horderly haccounted hdelivered actions).2] at hj
    have hreturned : j ∈ traffic.returned := (List.takeWhile_prefix _).subset hj
    exact (hdelivered.hasLocked_of_mem_returned hreturned).accepted_of_mem_tookBy horderly
      haccounted hdelivered actions hmem
  · rw [List.mem_singleton.1 hj] at hmem
    exact h.accepted_of_mem_tookBy horderly haccounted hdelivered actions hmem

/-- **A sample that is accepted later is taken by the flush that returns next**, if its
recording had returned when that was called. -/
theorem mem_tookBy_next (hlater : (traffic.after actions).Delivered)
    (hnodup : (traffic.after actions).returned.Nodup) {j : Nat}
    (hnext : (traffic.after actions).Follows i j) {call : FlushCall P}
    (hcall : (traffic.after actions).flushes[j]? = some call) {entry : Numbered}
    (hok : (traffic.after actions).recorded[entry.number]? = some ⟨entry.sample, .ok ()⟩)
    (hlt : entry.number < call.since) (hnew : ¬ traffic.Accepted entry) :
    entry ∈ (traffic.after actions).tookBy j := by
  have hflushed : call.phase.flushed?.isSome := by
    obtain ⟨before, rest, hreturned⟩ := hnext
    have hj : j ∈ (traffic.after actions).returned := by rw [hreturned]; simp
    obtain ⟨other, hother, hresult⟩ := (hlater.mem_returned_iff j).1 hj
    obtain rfl := Option.some.inj (hcall.symm.trans hother)
    cases hphase : call.phase with
    | done flushed => rfl
    | _ =>
      rw [hphase] at hresult
      cases hresult
  rcases hlater.covers_took j call hcall hflushed entry hok hlt with htook | ⟨p, hp, htook⟩
  · exact mem_tookBy_iff.2 ⟨call, hcall, htook⟩
  · rw [hnext.returnedBefore_eq hnodup] at hp
    exact absurd (h.accepted_of_returnedBefore horderly haccounted hdelivered actions hp htook)
      hnew

/-- **Until then it stays in the active slot**, where it is while no flush is inside. -/
theorem mem_held_of_last (hlater : (traffic.after actions).Delivered)
    (horderly' : (traffic.after actions).Orderly) (haccounted' : (traffic.after actions).Accounted)
    (hnodup : (traffic.after actions).returned.Nodup)
    (hlast : (traffic.after actions).returned.getLast? = some i)
    (hquiet : ∀ (j : Nat) (call : FlushCall P), (traffic.after actions).flushes[j]? = some call →
      call.phase.inside = false) {entry : Numbered}
    (haccepted : (traffic.after actions).Accepted entry) (hnew : ¬ traffic.Accepted entry) :
    entry ∈ (traffic.after actions).held (traffic.after actions).recorder.active := by
  obtain ⟨place, hplace⟩ := mem_everywhere_iff.1 ((haccounted'.mem_iff entry).2 haccepted)
  cases place with
  | slot id =>
    by_cases hid : id = (traffic.after actions).recorder.active
    · exact hid ▸ hplace
    · have hempty := (horderly'.poised_of_outside hquiet).spare_empty id
        (congrArg some (SlotId.eq_other_of_ne hid).symm)
      have hmem : entry ∈ (traffic.after actions).held id := hplace
      rw [hempty] at hmem
      cases hmem
  | flush j =>
    -- whoever has taken it has returned, so it was accepted early
    obtain ⟨call, hcall, htook⟩ := mem_tookBy_iff.1 hplace
    have hout := hquiet j call hcall
    have hj : j ∈ (traffic.after actions).returned := by
      refine (hlater.mem_returned_iff j).2 ⟨call, hcall, ?_⟩
      rcases call.phase.entering_or_inside_or_done with hentering | hinside | hresult
      · rw [hlater.took_eq_nil j call hcall (by rw [hentering]; rfl)] at htook
        cases htook
      · rw [hout] at hinside
        cases hinside
      · exact hresult
    rw [returned_eq_of_getLast? hlast hnodup] at hj
    exact absurd (h.accepted_of_returnedBefore horderly haccounted hdelivered actions hj hplace)
      hnew

end HasLocked

end Traffic

end StackProfiler
