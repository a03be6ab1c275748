import StackProfiler.Proofs.Recorder.Flips
import StackProfiler.Proofs.Scheduler.Panicking
/-!
# Flush schedulers — flushes return as they are asked for

The thread asks for one flush after the other, so its flushes return in the order in which
it has asked for them, whoever flushes in between (`Service.Ordered`). If nobody does, the
thread's last flush is the last that has returned (`Ordered.getLast?_returned`).
-/

namespace StackProfiler

namespace Service

variable {P : Type}

/-- **The thread's flushes return in order.** -/
def Ordered (service : Service P) : Prop :=
  service.traffic.returned.filter (· ∈ service.own.map OwnFlush.number) =
    (service.own.map OwnFlush.number).filter (· ∈ service.traffic.returned)

/-- Whether something is in a list does not depend on what is not. -/
theorem filter_mem_concat {l : List Nat} {i : Nat} (h : i ∉ l) (rest : List Nat) :
    l.filter (· ∈ rest ++ [i]) = l.filter (· ∈ rest) := by
  refine List.filter_congr fun j hj => decide_eq_decide.2 ?_
  have hne : j ≠ i := by
    rintro rfl
    exact h hj
  simp [hne]

namespace Ordered

variable {service : Service P} (h : service.Ordered)
include h

/-- The thread asks for one that nobody has asked for. -/
theorem ask {i : Nat} (hnew : i ∉ service.traffic.returned) {service' : Service P}
    {stopping : Bool} (hown : service'.own = service.own ++ [⟨i, stopping⟩])
    (hreturned : service'.traffic.returned = service.traffic.returned) : service'.Ordered := by
  have hnone : [i].filter (· ∈ service.traffic.returned) = [] :=
    List.filter_cons_of_neg (by simpa using hnew)
  rw [Ordered, hown, hreturned, List.map_append, List.map_singleton, filter_mem_concat hnew, h,
    List.filter_append, hnone, List.append_nil]

/-- Its last one returns. -/
theorem own {i : Nat} {stopping : Bool} (hlast : service.own.getLast? = some ⟨i, stopping⟩)
    (hnodup : (service.own.map OwnFlush.number).Nodup) (hopen : i ∉ service.traffic.returned)
    {service' : Service P} (hown : service'.own = service.own)
    (hreturned : service'.traffic.returned = service.traffic.returned ++ [i]) :
    service'.Ordered := by
  obtain ⟨front, hfront⟩ : ∃ front, service.own.map OwnFlush.number = front ++ [i] := by
    refine ⟨service.own.dropLast.map OwnFlush.number, ?_⟩
    rw [← List.dropLast_append_getLast? _ hlast, List.map_append, List.dropLast_concat]
    rfl
  have hnotMem : i ∉ front := by
    rw [hfront] at hnodup
    exact fun hmem => List.disjoint_of_nodup_append hnodup hmem (List.mem_singleton_self i)
  rw [Ordered, hfront] at h
  rw [Ordered, hown, hreturned, hfront, List.filter_append, List.filter_append, h,
    filter_mem_concat hnotMem, List.filter_append]
  simp [hopen]

/-- Somebody else's returns. -/
theorem other {i : Nat} (hother : i ∉ service.own.map OwnFlush.number) {service' : Service P}
    (hown : service'.own = service.own)
    (hreturned : service'.traffic.returned = service.traffic.returned ++ [i]) :
    service'.Ordered := by
  have hnone : [i].filter (· ∈ service.own.map OwnFlush.number) = [] :=
    List.filter_cons_of_neg (by simpa using hother)
  rw [Ordered, hown, hreturned, filter_mem_concat hother, List.filter_append, h, hnone,
    List.append_nil]

/-- **The flush that returned last** is the thread's last, if nobody else has flushed. -/
theorem getLast?_returned (hall : ∀ own ∈ service.own, own.number ∈ service.traffic.returned)
    (halone : ∀ i ∈ service.traffic.returned, i ∈ service.own.map OwnFlush.number) :
    service.traffic.returned.getLast? = service.own.getLast?.map OwnFlush.number := by
  have hsame : service.traffic.returned = service.own.map OwnFlush.number := by
    rw [Ordered, List.filter_eq_self.2 fun i hi => decide_eq_true (halone i hi),
      List.filter_eq_self.2] at h
    · exact h
    · intro i hi
      obtain ⟨own, hmem, rfl⟩ := List.mem_map.1 hi
      exact decide_eq_true (hall own hmem)
  rw [hsame, List.getLast?_map]

variable [ProfileStore P]

/-- **A step of the thread.** -/
theorem thread (htied : service.Tied) (hdelivered : service.traffic.Delivered) {now : Instant}
    {phase : FlushPhase P} {service' : Service P}
    (hmakes : service.ThreadMakes now phase service') : service'.Ordered := by
  cases hmakes with
  | ask =>
    refine h.ask (i := service.traffic.flushes.length) (fun hreturned => ?_) rfl rfl
    obtain ⟨call, hcall, -⟩ := (hdelivered.mem_returned_iff _).1 hreturned
    rw [List.getElem?_eq_none (Nat.le_refl _)] at hcall
    cases hcall
  | flush stopping i call phase recorder hlast hcall hstep hnew =>
    have hopen := hdelivered.notMem_returned_of_step hcall hstep
    cases hresult : phase.result?.isSome with
    | true => exact h.own hlast.getLast?_eq htied.nodup hopen rfl (if_pos hresult)
    | false =>
      have hreturned : (service.traffic.flushStep i call phase recorder).returned =
          service.traffic.returned := if_neg (Bool.eq_false_iff.1 hresult)
      rw [Ordered]
      dsimp only [setPhase]
      rw [hreturned]
      exact h
  | _ => exact h

/-- **A step of somebody else.** -/
theorem call {action : Traffic.Action} (hallows : service.allows action = true)
    {traffic : Traffic P} (hstep : service.traffic.step? action = some traffic) :
    { service with traffic := traffic }.Ordered := by
  rcases Traffic.step?_cases hstep with ⟨sample, -, -, rfl⟩ | ⟨sample, recording, -, -, rfl⟩ |
    ⟨finish, -, rfl⟩ | ⟨i, now, other, phase, recorder, rfl, -, -, rfl⟩
  · exact h
  · exact h
  · exact h
  · have hother : i ∉ service.own.map OwnFlush.number := by
      intro hmem
      obtain ⟨own, hown, rfl⟩ := List.mem_map.1 hmem
      exact of_decide_eq_true (List.all_eq_true.1 hallows own hown) rfl
    cases hresult : phase.result?.isSome with
    | true => exact h.other hother rfl (if_pos hresult)
    | false =>
      have hreturned : (service.traffic.flushStep i other phase recorder).returned =
          service.traffic.returned := if_neg (Bool.eq_false_iff.1 hresult)
      rw [Ordered]
      dsimp only
      rw [hreturned]
      exact h

/-- A step that the thread makes only while it is tied. -/
theorem step? {action : Action} (htied : ∀ now, action = .thread now → service.Tied)
    (hdelivered : service.traffic.Delivered) {service' : Service P}
    (hstep : service.step? action = some service') : service'.Ordered := by
  rcases step?_cases hstep with ⟨call, traffic, -, hallows, hnext, rfl⟩ |
    ⟨now, next, haction, hnext, rfl⟩ | ⟨-, -, rfl⟩ | ⟨-, -, -, -, rfl⟩ | ⟨-, -, -, -, rfl⟩
  · exact h.call hallows hnext
  · have htied := htied now haction
    exact h.thread htied hdelivered (htied.threadMakes hnext)
  · exact h
  · exact h
  · exact h

/-- **Every step keeps the order.** -/
theorem step {panics : Nat → Bool} (hendures : service.Endures panics)
    (hdelivered : service.traffic.Delivered) {service' : Service P} {action : Action}
    (hstep : service.stepWith? panics action = some service') : service'.Ordered := by
  rcases hendures with hunharmed | hfallen
  · rcases stepWith?_cases hstep with ⟨hsame, -⟩ |
      ⟨now, stopping, flushed, twin, rfl, -, htwin, -, rfl⟩
    · exact h.step? (fun _ _ => hunharmed.tied) hdelivered hsame
    · have hordered := h.step? (fun _ _ => hunharmed.tied) hdelivered htwin
      split
      · exact hordered
      · exact hordered
  · obtain ⟨hsame, hothers⟩ := hfallen.step?_of_stepWith? hstep
    exact h.step? (fun now haction => absurd haction (hothers now)) hdelivered hsame

end Ordered

theorem ordered_started (traffic : Traffic P) (scheduler : Scheduler P) :
    (started traffic scheduler).Ordered :=
  (List.filter_eq_nil_iff.2 fun _ _ => by simp [started]).trans List.filter_nil.symm

end Service

end StackProfiler
