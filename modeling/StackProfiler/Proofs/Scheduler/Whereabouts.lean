import StackProfiler.Proofs.Recorder.Contents
import StackProfiler.Proofs.Scheduler.Agreement
/-!
# Flush schedulers — where samples are

A sample that was recorded is in a store, in a profile that somebody else has flushed,
in one that was exported, or on its way from the recorder to the exporter in the hands
of the thread (`Whereabouts`). It is in one of these only (`Tied.existsUnique_whereabouts`), as it
is in one place among the stores and the flushes of the recorder, and an earlier flush of the
thread was exported unless it had taken nothing.
-/

namespace StackProfiler

/-- Where a sample can be. -/
inductive Whereabouts
  /-- In the store of a slot. -/
  | store (id : SlotId)
  /-- In the profile of a flush that somebody else has asked for. -/
  | serialized (i : Nat)
  /-- In a profile that the exporter was given, the first being number 0. -/
  | exported (k : Nat)
  /-- In the profile that the thread has taken and not yet given to the exporter. -/
  | onTheWay
  deriving DecidableEq

/-- The profile that the thread has taken and not yet given to the exporter. -/
def FlushThread.carried? {P : Type} (thread : FlushThread P) : Option (Flushed P) :=
  match thread.phase with
  | .flushing _ _ flush => flush.flushed?
  | .exporting _ flushed => some flushed
  | _ => none

namespace Service

section Places

variable {P : Type}

/-- The samples there. -/
def samplesAt (service : Service P) : Whereabouts → List Numbered
  | .store id => service.traffic.held id
  | .serialized i =>
    if i ∈ service.own.map OwnFlush.number then [] else service.traffic.tookBy i
  | .exported k => service.exports[k]?.elim [] service.traffic.tookBy
  | .onTheWay =>
    service.own.getLast?.elim [] fun own =>
      if own.number ∈ service.exports then [] else service.traffic.tookBy own.number

/-- What is on its way was taken by the thread's last flush, which is not exported. -/
theorem exists_own_of_onTheWay {service : Service P} {entry : Numbered}
    (h : entry ∈ service.samplesAt .onTheWay) :
    ∃ own, service.own.getLast? = some own ∧ own.number ∉ service.exports ∧
      service.samplesAt .onTheWay = service.traffic.tookBy own.number := by
  rw [samplesAt] at h ⊢
  cases hlast : service.own.getLast? with
  | none =>
    rw [hlast] at h
    cases h
  | some own =>
    rw [hlast, Option.elim_some] at h
    split at h
    · cases h
    · next hnew => exact ⟨own, rfl, hnew, if_neg hnew⟩

/-- What a place of the recorder is to the scheduler. -/
def whereabouts (service : Service P) : Traffic.Place → Whereabouts
  | .slot id => .store id
  | .flush i =>
    if i ∈ service.exports then .exported (service.exports.idxOf i)
    else if i ∈ service.own.map OwnFlush.number then .onTheWay
    else .serialized i

/-- **What the thread has behind it is exported**, if it is anything. -/
def Exhausted (service : Service P) : Prop :=
  ∀ own ∈ service.own.dropLast, own.number ∉ service.exports →
    service.traffic.tookBy own.number = []

/-- A flush of the thread is its last one or comes before that. -/
theorem mem_dropLast_or_getLast? {service : Service P} {own : OwnFlush}
    (h : own ∈ service.own) :
    own ∈ service.own.dropLast ∨ service.own.getLast? = some own := by
  cases hlast : service.own.getLast? with
  | none =>
    rw [List.getLast?_eq_none_iff.1 hlast] at h
    cases h
  | some last =>
    rw [← List.dropLast_append_getLast? _ hlast] at h
    rcases List.mem_append.1 h with h | h
    · exact .inl h
    · exact .inr (by rw [List.mem_singleton.1 h])

variable [ProfileStore P] {service : Service P}

/-- **Samples are where the places are** in which the recorder has them. -/
theorem Tied.mem_samplesAt_iff (h : service.Tied) (hexhausted : service.Exhausted)
    {entry : Numbered} {whereabouts : Whereabouts} :
    entry ∈ service.samplesAt whereabouts ↔
      ∃ place, entry ∈ service.traffic.samplesAt place ∧
        service.whereabouts place = whereabouts := by
  constructor
  · intro hmem
    cases whereabouts with
    | store id => exact ⟨.slot id, hmem, rfl⟩
    | serialized i =>
      rw [samplesAt] at hmem
      split at hmem
      · cases hmem
      · next hother =>
        have hnew : i ∉ service.exports := fun hi => hother (h.mem_own_of_mem_exports hi)
        exact ⟨.flush i, hmem, by rw [Service.whereabouts, if_neg hnew, if_neg hother]⟩
    | exported k =>
      rw [samplesAt] at hmem
      cases hk : service.exports[k]? with
      | none =>
        rw [hk] at hmem
        cases hmem
      | some i =>
        rw [hk] at hmem
        obtain ⟨hlt, rfl⟩ := List.getElem?_eq_some_iff.1 hk
        refine ⟨.flush service.exports[k], hmem, ?_⟩
        rw [Service.whereabouts, if_pos (List.getElem_mem hlt), h.exports_nodup.idxOf_getElem]
    | onTheWay =>
      obtain ⟨own, hlast, hnew, hsamples⟩ := exists_own_of_onTheWay hmem
      rw [hsamples] at hmem
      refine ⟨.flush own.number, hmem, ?_⟩
      rw [Service.whereabouts, if_neg hnew,
        if_pos (List.mem_map_of_mem (List.mem_of_getLast? hlast))]
  · rintro ⟨place, hmem, rfl⟩
    cases place with
    | slot id => exact hmem
    | flush i =>
      rw [Service.whereabouts]
      split
      · next hexported =>
        rw [samplesAt, List.getElem?_idxOf hexported]
        exact hmem
      · next hnew =>
        split
        · next hown =>
          obtain ⟨own, hmemOwn, rfl⟩ := List.mem_map.1 hown
          rcases mem_dropLast_or_getLast? hmemOwn with hbefore | hlast
          · have hnothing : entry ∈ service.traffic.tookBy own.number := hmem
            rw [hexhausted own hbefore hnew] at hnothing
            cases hnothing
          · rw [samplesAt, hlast, Option.elim_some, if_neg hnew]
            exact hmem
        · next hother =>
          rw [samplesAt, if_neg hother]
          exact hmem

/-- **A sample that was recorded is in exactly one of these.** -/
theorem Tied.existsUnique_whereabouts (h : service.Tied) (hexhausted : service.Exhausted)
    (haccounted : service.traffic.Accounted) {entry : Numbered}
    (haccepted : service.traffic.Accepted entry) :
    ∃! whereabouts, entry ∈ service.samplesAt whereabouts := by
  obtain ⟨place, hplace, hunique⟩ := haccounted.existsUnique_place haccepted
  refine ⟨service.whereabouts place, (h.mem_samplesAt_iff hexhausted).2 ⟨place, hplace, rfl⟩, ?_⟩
  intro whereabouts hmem
  obtain ⟨place', hplace', rfl⟩ := (h.mem_samplesAt_iff hexhausted).1 hmem
  rw [hunique place' hplace']

omit [ProfileStore P] in
/-- There it is once. -/
theorem nodup_samplesAt (haccounted : service.traffic.Accounted) (whereabouts : Whereabouts) :
    (service.samplesAt whereabouts).Nodup := by
  have htook : ∀ i, (service.traffic.tookBy i).Nodup :=
    fun i => haccounted.samplesAt_nodup (.flush i)
  cases whereabouts with
  | store id => exact haccounted.samplesAt_nodup (.slot id)
  | serialized i =>
    rw [samplesAt]
    split
    · exact List.nodup_nil
    · exact htook i
  | exported k =>
    rw [samplesAt]
    cases service.exports[k]? with
    | none => exact List.nodup_nil
    | some i => exact htook i
  | onTheWay =>
    rw [samplesAt]
    cases service.own.getLast? with
    | none => exact List.nodup_nil
    | some own =>
      rw [Option.elim_some]
      split
      · exact List.nodup_nil
      · exact htook own.number

end Places

/-! ## Profiles -/

section Profiles

variable {service : Service Profile} {valueTypes : List Metric}

/-- A flush has taken nothing if its profile is empty. -/
theorem isEmpty_iff_tookBy (hfilled : service.traffic.Filled valueTypes) {i : Nat}
    {call : FlushCall Profile} {flushed : Flushed Profile}
    (hcall : service.traffic.flushes[i]? = some call) (hdone : call.phase = .done flushed) :
    ProfileStore.isEmpty flushed.profile = true ↔ service.traffic.tookBy i = [] :=
  (hfilled.comprises_tookBy hcall (hdone ▸ rfl)).isEmpty_iff.trans List.map_eq_nil_iff

/-- So what is not exported holds nothing. -/
theorem Settled.tookBy_eq_nil (hfilled : service.traffic.Filled valueTypes) {i : Nat}
    (h : service.Settled i) (hnew : i ∉ service.exports) : service.traffic.tookBy i = [] := by
  obtain ⟨call, flushed, hcall, hdone, hempty | hexported⟩ := h
  · exact (isEmpty_iff_tookBy hfilled hcall hdone).1 hempty
  · exact absurd hexported hnew

/-- **What somebody else has flushed** is in the profile of that flush. -/
theorem serialized_comprises (hfilled : service.traffic.Filled valueTypes)
    (hdelivered : service.traffic.Delivered) {i : Nat} {entry : Numbered}
    (hmem : entry ∈ service.samplesAt (.serialized i)) :
    i ∉ service.own.map OwnFlush.number ∧ ∃ call flushed,
      service.traffic.flushes[i]? = some call ∧ call.phase.flushed? = some flushed ∧
      flushed.profile.Comprises valueTypes flushed.start
        ((service.samplesAt (.serialized i)).map Numbered.sample) := by
  rw [samplesAt] at hmem ⊢
  split at hmem
  · cases hmem
  · next hother =>
    obtain ⟨call, hcall, htook⟩ := Traffic.mem_tookBy_iff.1 hmem
    rw [if_neg hother]
    cases hflushed : call.phase.flushed? with
    | some flushed =>
      exact ⟨hother, call, flushed, hcall, hflushed, hfilled.comprises_tookBy hcall hflushed⟩
    | none =>
      rw [hdelivered.took_eq_nil i call hcall hflushed] at htook
      cases htook

namespace Tied

variable (h : service.Tied)
include h

/-- **What is behind the thread is exported**, if it is anything. -/
theorem exhausted (hfilled : service.traffic.Filled valueTypes) : service.Exhausted :=
  fun own hmem hnew => (h.past_of_mem_dropLast own hmem).settled.tookBy_eq_nil hfilled hnew

/-- **An exported profile** comprises the samples that are in it, and there are some. -/
theorem exported_comprises (hfilled : service.traffic.Filled valueTypes) {k : Nat}
    {flushed : Flushed Profile} (hk : service.scheduler.thread.exported[k]? = some flushed) :
    flushed.profile.Comprises valueTypes flushed.start
        ((service.samplesAt (.exported k)).map Numbered.sample) ∧
      service.samplesAt (.exported k) ≠ [] := by
  obtain ⟨hlt, -⟩ := List.getElem?_eq_some_iff.1 hk
  rw [← h.exports_length] at hlt
  have hi := List.getElem?_eq_getElem hlt
  obtain ⟨-, ⟨call, hcall, hdone⟩, hfull⟩ := h.exported k _ flushed hi hk
  have hsamples : service.samplesAt (.exported k) = service.traffic.tookBy service.exports[k] := by
    rw [samplesAt, hi]
    rfl
  rw [hsamples]
  refine ⟨hfilled.comprises_tookBy hcall (hdone ▸ rfl), fun hnothing => ?_⟩
  rw [(isEmpty_iff_tookBy hfilled hcall hdone).2 hnothing] at hfull
  cases hfull

/-- A sample that was exported is in a profile that the exporter was given. -/
theorem exists_exported {k : Nat} {entry : Numbered}
    (hmem : entry ∈ service.samplesAt (.exported k)) :
    ∃ flushed, service.scheduler.thread.exported[k]? = some flushed := by
  rw [samplesAt] at hmem
  cases hk : service.exports[k]? with
  | none =>
    rw [hk] at hmem
    cases hmem
  | some i =>
    obtain ⟨hlt, -⟩ := List.getElem?_eq_some_iff.1 hk
    rw [h.exports_length] at hlt
    exact ⟨_, List.getElem?_eq_getElem hlt⟩

/-- **A sample is on its way** only while the thread has a profile in its hands, which
comprises the samples that are. -/
theorem carried_comprises (hfilled : service.traffic.Filled valueTypes)
    (hdelivered : service.traffic.Delivered) {entry : Numbered}
    (hmem : entry ∈ service.samplesAt .onTheWay) :
    ∃ flushed, service.scheduler.thread.carried? = some flushed ∧
      flushed.profile.Comprises valueTypes flushed.start
        ((service.samplesAt .onTheWay).map Numbered.sample) := by
  obtain ⟨own, hlast, hnew, hsamples⟩ := exists_own_of_onTheWay hmem
  rw [hsamples] at hmem ⊢
  have hunsettled : ¬ service.Settled own.number := by
    intro hsettled
    rw [hsettled.tookBy_eq_nil hfilled hnew] at hmem
    cases hmem
  have hsame : ∀ {i stopping}, service.Last i stopping → i = own.number :=
    fun hi => congrArg OwnFlush.number (hi.eq_of_getLast? hlast)
  have hstands := h.stands
  rw [FlushThread.carried?]
  cases hphase : service.scheduler.thread.phase with
  | starting | testing | waiting | reading =>
    rw [hphase] at hstands
    exact absurd (hstands own (List.mem_of_getLast? hlast)).settled hunsettled
  | flushing stopping finish flush =>
    rw [hphase] at hstands
    obtain ⟨i, call, hi, hcall, -, rfl, -⟩ := hstands
    rw [hsame hi] at hcall
    cases hflushed : call.phase.flushed? with
    | some flushed => exact ⟨flushed, hflushed, hfilled.comprises_tookBy hcall hflushed⟩
    | none =>
      rw [Traffic.tookBy, hcall, Option.elim_some,
        hdelivered.took_eq_nil own.number call hcall hflushed] at hmem
      cases hmem
  | exporting stopping flushed =>
    rw [hphase] at hstands
    obtain ⟨i, call, hi, hcall, hdone, -⟩ := hstands
    rw [hsame hi] at hcall
    exact ⟨flushed, rfl, hfilled.comprises_tookBy hcall (hdone ▸ rfl)⟩
  | resuming stopping =>
    rw [hphase] at hstands
    obtain ⟨i, hi, hsettled⟩ := hstands
    exact absurd (hsame hi ▸ hsettled) hunsettled
  | exited =>
    rw [hphase] at hstands
    obtain ⟨i, hi, hsettled⟩ := hstands
    exact absurd (hsame hi ▸ hsettled) hunsettled
  | panicked =>
    rw [hphase] at hstands
    exact hstands.elim

end Tied

end Profiles

end Service

end StackProfiler
