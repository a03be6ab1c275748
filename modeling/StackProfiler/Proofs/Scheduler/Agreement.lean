import StackProfiler.Proofs.Scheduler.OwnFlushes
/-!
# Flush schedulers — thread and recorder agree

A scheduler that has been started is tied, and every step leaves it so
(`Service.Tied.step`): steps of others leave the thread's flushes alone, and the thread
asks for a flush, goes on with it and hands its profile on one after the other.
-/

namespace StackProfiler

namespace Service

variable {P : Type} [ProfileStore P]

/-! ## What a step leaves as it is -/

section Frame

variable {service service' : Service P}

theorem Last.own_eq {i : Nat} {stopping : Bool} (h : service.Last i stopping) :
    service.own.dropLast ++ [⟨i, stopping⟩] = service.own :=
  List.dropLast_append_getLast? _ h.getLast?_eq

theorem Last.mem {i : Nat} {stopping : Bool} (h : service.Last i stopping) :
    ⟨i, stopping⟩ ∈ service.own := by
  rw [← h.own_eq]
  exact List.mem_append_right _ (List.mem_singleton_self _)

/-- There is one last flush. -/
theorem Last.eq_of_getLast? {i : Nat} {stopping : Bool} {own : OwnFlush}
    (h : service.Last i stopping) (hlast : service.own.getLast? = some own) :
    ⟨i, stopping⟩ = own :=
  Option.some.inj (h.getLast?_eq.symm.trans hlast)

/-- It is none of those before it. -/
theorem Last.ne_of_mem {i : Nat} {stopping : Bool} (h : service.Last i stopping)
    (hnodup : (service.own.map OwnFlush.number).Nodup) {own : OwnFlush}
    (hown : own ∈ service.own.dropLast) : own.number ≠ i := by
  rw [← h.own_eq, List.map_append, List.nodup_append] at hnodup
  exact hnodup.2.2 own.number (List.mem_map_of_mem hown) i (List.mem_singleton_self _)

theorem Settled.congr {i : Nat} (h : service.Settled i)
    (hflush : service'.traffic.flushes[i]? = service.traffic.flushes[i]?)
    (hexports : service.exports ⊆ service'.exports) : service'.Settled i := by
  obtain ⟨call, flushed, hcall, hdone, hsettled⟩ := h
  exact ⟨call, flushed, hflush.trans hcall, hdone, hsettled.imp_right fun hmem => hexports hmem⟩

theorem Past.congr {own : OwnFlush} (h : service.Past own)
    (hflush : service'.traffic.flushes[own.number]? = service.traffic.flushes[own.number]?)
    (hexports : service.exports ⊆ service'.exports) : service'.Past own :=
  ⟨h.goesOn, h.settled.congr hflush hexports⟩

theorem Last.congr {i : Nat} {stopping : Bool} (h : service.Last i stopping)
    (hown : service'.own = service.own)
    (hflushes : ∀ own ∈ service.own.dropLast,
      service'.traffic.flushes[own.number]? = service.traffic.flushes[own.number]?)
    (hexports : service.exports ⊆ service'.exports) : service'.Last i stopping where
  getLast?_eq := by rw [hown, h.getLast?_eq]
  past := by
    rw [hown]
    exact fun own hmem => (h.past own hmem).congr (hflushes own hmem) hexports

theorem Exported.congr {i : Nat} {flushed : Flushed P} (h : service.Exported i flushed)
    (hown : service.own ⊆ service'.own)
    (hflush : service'.traffic.flushes[i]? = service.traffic.flushes[i]?) :
    service'.Exported i flushed where
  own := List.map_subset _ hown h.own
  done := by
    rw [hflush]
    exact h.done
  full := h.full

/-- A last flush that is settled and after which the thread goes on is behind it. -/
theorem Last.past_all {i : Nat} (hlast : service.Last i false) (hsettled : service.Settled i) :
    ∀ own ∈ service.own, service.Past own := by
  intro own hmem
  rw [← hlast.own_eq] at hmem
  rcases List.mem_append.1 hmem with hmem | hmem
  · exact hlast.past own hmem
  · rw [List.mem_singleton.1 hmem]
    exact ⟨rfl, hsettled⟩

/-- **Where the thread stands** depends on its own flushes only. -/
theorem Stands.congr {phase : FlushPhase P} (h : service.Stands phase)
    (hown : service'.own = service.own) (hexports : service'.exports = service.exports)
    (hflushes : ∀ own ∈ service.own,
      service'.traffic.flushes[own.number]? = service.traffic.flushes[own.number]?) :
    service'.Stands phase := by
  have hsub : service.exports ⊆ service'.exports := hexports ▸ List.Subset.refl _
  have hbehind : (∀ own ∈ service.own, service.Past own) →
      ∀ own ∈ service'.own, service'.Past own := by
    intro hpast own hmem
    rw [hown] at hmem
    exact (hpast own hmem).congr (hflushes own hmem) hsub
  have hlast : ∀ {i stopping}, service.Last i stopping → service'.Last i stopping := by
    intro i stopping hlast
    exact hlast.congr hown (fun own hmem => hflushes own (List.dropLast_subset _ hmem)) hsub
  have hflush : ∀ {i stopping}, service.Last i stopping →
      service'.traffic.flushes[i]? = service.traffic.flushes[i]? :=
    fun hlast => hflushes _ hlast.mem
  cases phase with
  | starting => exact hbehind h
  | testing => exact hbehind h
  | waiting => exact hbehind h
  | reading => exact hbehind h
  | flushing stopping finish flush =>
    obtain ⟨i, call, hi, hcall, hfinish, hphase, hnew⟩ := h
    exact ⟨i, call, hlast hi, (hflush hi).trans hcall, hfinish, hphase, hexports ▸ hnew⟩
  | exporting stopping flushed =>
    obtain ⟨i, call, hi, hcall, hphase, hfull, hnew⟩ := h
    exact ⟨i, call, hlast hi, (hflush hi).trans hcall, hphase, hfull, hexports ▸ hnew⟩
  | resuming stopping =>
    obtain ⟨i, hi, hsettled⟩ := h
    exact ⟨i, hlast hi, hsettled.congr (hflush hi) hsub⟩
  | exited =>
    obtain ⟨i, hi, hsettled⟩ := h
    exact ⟨i, hlast hi, hsettled.congr (hflush hi) hsub⟩
  | panicked => exact h

end Frame

namespace Tied

variable {service : Service P} (h : service.Tied)
include h

/-- Only flushes of the thread have been exported. -/
theorem mem_own_of_mem_exports {i : Nat} (hi : i ∈ service.exports) :
    i ∈ service.own.map OwnFlush.number := by
  obtain ⟨k, hk⟩ := List.mem_iff_getElem?.1 hi
  obtain ⟨hlt, -⟩ := List.getElem?_eq_some_iff.1 hk
  rw [h.exports_length] at hlt
  exact (h.exported k i _ hk (List.getElem?_eq_getElem hlt)).own

/-- **All flushes of the thread but the last** are behind it. -/
theorem past_of_mem_dropLast : ∀ own ∈ service.own.dropLast, service.Past own := by
  have hstands := h.stands
  cases hphase : service.scheduler.thread.phase with
  | starting | testing | waiting | reading =>
    rw [hphase] at hstands
    exact fun own hmem => hstands own (List.dropLast_subset _ hmem)
  | flushing stopping finish flush =>
    rw [hphase] at hstands
    obtain ⟨i, call, hlast, -⟩ := hstands
    exact hlast.past
  | exporting stopping flushed =>
    rw [hphase] at hstands
    obtain ⟨i, call, hlast, -⟩ := hstands
    exact hlast.past
  | resuming stopping =>
    rw [hphase] at hstands
    obtain ⟨i, hlast, -⟩ := hstands
    exact hlast.past
  | exited =>
    rw [hphase] at hstands
    obtain ⟨i, hlast, -⟩ := hstands
    exact hlast.past
  | panicked =>
    rw [hphase] at hstands
    exact hstands.elim

/-- **A thread that has ended** has read the flag as raised before its last flush, and
all its flushes are settled. -/
theorem settled_of_ended (hended : service.scheduler.thread.ended = true) :
    ∃ i, service.Last i true ∧ ∀ own ∈ service.own, service.Settled own.number := by
  have hstands := h.stands
  rw [FlushThread.ended] at hended
  cases hphase : service.scheduler.thread.phase with
  | exited =>
    rw [hphase] at hstands
    obtain ⟨i, hlast, hsettled⟩ := hstands
    refine ⟨i, hlast, fun own hmem => ?_⟩
    rw [← hlast.own_eq] at hmem
    rcases List.mem_append.1 hmem with hmem | hmem
    · exact (hlast.past own hmem).settled
    · rw [List.mem_singleton.1 hmem]
      exact hsettled
  | panicked =>
    rw [hphase] at hstands
    exact hstands.elim
  | _ =>
    rw [hphase] at hended
    cases hended

/-- **Whoever leaves the thread's flushes alone** leaves the service tied. -/
theorem congr {service' : Service P}
    (hthread : service'.scheduler.thread = service.scheduler.thread)
    (hown : service'.own = service.own) (hexports : service'.exports = service.exports)
    (hflushes : ∀ own ∈ service.own,
      service'.traffic.flushes[own.number]? = service.traffic.flushes[own.number]?) :
    service'.Tied where
  lt_length := by
    intro own hmem
    rw [hown] at hmem
    have hlt := h.lt_length own hmem
    have hcall := (hflushes own hmem).trans (List.getElem?_eq_getElem hlt)
    exact (List.getElem?_eq_some_iff.1 hcall).1
  nodup := by
    rw [hown]
    exact h.nodup
  stands := by
    rw [hthread]
    exact h.stands.congr hown hexports hflushes
  exports_length := by
    rw [hthread, hexports]
    exact h.exports_length
  exported := by
    rw [hthread, hexports]
    intro k i flushed hk hflushed
    have hexported := h.exported k i flushed hk hflushed
    refine hexported.congr (hown ▸ List.Subset.refl _) ?_
    obtain ⟨own, hmem, rfl⟩ := List.mem_map.1 hexported.own
    exact hflushes own hmem
  exports_nodup := by
    rw [hexports]
    exact h.exports_nodup

/-- A step of the thread that only moves on. -/
theorem setPhase {phase : FlushPhase P} (hstands : service.Stands phase) :
    (service.setPhase phase).Tied where
  lt_length := h.lt_length
  nodup := h.nodup
  stands := hstands.congr rfl rfl fun _ _ => rfl
  exports_length := h.exports_length
  exported := fun k i flushed hk hflushed =>
    (h.exported k i flushed hk hflushed).congr (List.Subset.refl _) rfl
  exports_nodup := h.exports_nodup

/-- **The thread asks for a flush**: all it has asked for before are behind it. -/
theorem ask (hpast : ∀ own ∈ service.own, service.Past own) (stopping : Bool) (now : Instant) :
    Tied { service.setPhase (.flushing stopping now .entering) with
      traffic := { service.traffic with
        flushes := service.traffic.flushes ++ [.called now service.traffic.recorded.length] }
      own := service.own ++ [⟨service.traffic.flushes.length, stopping⟩] } := by
  have hold : ∀ own ∈ service.own,
      (service.traffic.flushes ++ [.called now service.traffic.recorded.length])[own.number]? =
        service.traffic.flushes[own.number]? :=
    fun own hmem => List.getElem?_append_left (h.lt_length own hmem)
  have hnew : service.traffic.flushes.length ∉ service.own.map OwnFlush.number := by
    intro hmem
    obtain ⟨own, hown, hnumber⟩ := List.mem_map.1 hmem
    have hlt := h.lt_length own hown
    omega
  refine ⟨?_, ?_, ?_, h.exports_length, ?_, h.exports_nodup⟩
  · intro own hmem
    rw [List.length_append, List.length_singleton]
    rcases List.mem_append.1 hmem with hmem | hmem
    · have hlt := h.lt_length own hmem
      omega
    · rw [List.mem_singleton.1 hmem]
      exact Nat.lt_succ_self _
  · rw [List.map_append, List.map_singleton, List.nodup_append]
    refine ⟨h.nodup, List.nodup_singleton _, fun i hi j hj => ?_⟩
    rintro rfl
    rw [List.mem_singleton.1 hj] at hi
    exact hnew hi
  · refine ⟨service.traffic.flushes.length, _, ⟨List.getLast?_concat, ?_⟩,
      List.getElem?_concat_length, rfl, rfl, fun hmem => hnew (h.mem_own_of_mem_exports hmem)⟩
    rw [List.dropLast_concat]
    exact fun own hmem => (hpast own hmem).congr (hold own hmem) (List.Subset.refl _)
  · intro k i flushed hk hflushed
    have hexported := h.exported k i flushed hk hflushed
    refine hexported.congr (List.subset_append_left _ _) ?_
    obtain ⟨own, hmem, rfl⟩ := List.mem_map.1 hexported.own
    exact hold own hmem

/-- **The thread goes on with its flush.** -/
theorem flush {stopping : Bool} {i : Nat} {call : FlushCall P} {phase : Flush P}
    {recorder : Recorder P} (hlast : service.Last i stopping)
    (hcall : service.traffic.flushes[i]? = some call) (hnew : i ∉ service.exports) :
    Tied { service.setPhase (.flushing stopping call.finish phase) with
      traffic := service.traffic.flushStep i call phase recorder } := by
  have hold : ∀ j, j ≠ i → (service.traffic.flushStep i call phase recorder).flushes[j]? =
      service.traffic.flushes[j]? := by
    intro j hj
    rw [Traffic.flushes_flushStep hcall, if_neg hj]
  refine ⟨?_, h.nodup, ?_, h.exports_length, ?_, h.exports_nodup⟩
  · intro own hmem
    rw [Traffic.flushStep, List.length_set]
    exact h.lt_length own hmem
  · refine ⟨i, call.stepped service.traffic.held phase, hlast.congr rfl ?_ (List.Subset.refl _), ?_,
      rfl, rfl, hnew⟩
    · exact fun own hmem => hold own.number (hlast.ne_of_mem h.nodup hmem)
    · exact (Traffic.flushes_flushStep hcall ..).trans (if_pos rfl)
  · intro k j flushed hk hflushed
    refine (h.exported k j flushed hk hflushed).congr (List.Subset.refl _) (hold j ?_)
    rintro rfl
    exact hnew (List.mem_of_getElem? hk)

/-- **The exporter is given a profile.** -/
theorem deliver {stopping : Bool} {i : Nat} {call : FlushCall P} {flushed : Flushed P}
    (hlast : service.Last i stopping) (hcall : service.traffic.flushes[i]? = some call)
    (hdone : call.phase = .done flushed)
    (hfull : ProfileStore.isEmpty flushed.profile = false) (hnew : i ∉ service.exports) :
    Tied { service with
      scheduler :=
        { service.scheduler with
          thread := ⟨.resuming stopping, service.scheduler.thread.exported ++ [flushed]⟩ }
      exports := service.exports ++ [i] } := by
  refine ⟨h.lt_length, h.nodup, ?_, ?_, ?_, ?_⟩
  · refine ⟨i, hlast.congr rfl (fun _ _ => rfl) (List.subset_append_left _ _), call, flushed, hcall,
      hdone, .inr (List.mem_append_right _ (List.mem_singleton_self i))⟩
  · rw [List.length_append, List.length_append, h.exports_length]
    rfl
  · intro k j flushed' hk hflushed
    rcases Traffic.getElem?_concat_eq_some_iff.1 hk with hk | ⟨rfl, rfl⟩
    · rcases Traffic.getElem?_concat_eq_some_iff.1 hflushed with hflushed | ⟨rfl, -⟩
      · exact (h.exported k j flushed' hk hflushed).congr (List.Subset.refl _) rfl
      · obtain ⟨hlt, -⟩ := List.getElem?_eq_some_iff.1 hk
        have hlength := h.exports_length
        omega
    · rcases Traffic.getElem?_concat_eq_some_iff.1 hflushed with hflushed | ⟨-, rfl⟩
      · obtain ⟨hlt, -⟩ := List.getElem?_eq_some_iff.1 hflushed
        have hlength := h.exports_length
        omega
      · exact ⟨List.mem_map_of_mem hlast.mem, ⟨call, hcall, hdone⟩, hfull⟩
  · rw [List.nodup_append]
    refine ⟨h.exports_nodup, List.nodup_singleton _, fun j hj j' hj' => ?_⟩
    rintro rfl
    rw [List.mem_singleton.1 hj'] at hj
    exact hnew hj

/-- **A step of the thread** leaves the service tied. -/
theorem thread {now : Instant} {service' : Service P}
    (hmakes : service.ThreadMakes now service.scheduler.thread.phase service') : service'.Tied := by
  have hstands := h.stands
  generalize service.scheduler.thread.phase = phase at hmakes hstands
  cases hmakes with
  | start => exact h.setPhase hstands
  | skipWait hflag => exact h.setPhase hstands
  | wait hflag =>
    have hwaiting : (service.setPhase .waiting).Tied := h.setPhase hstands
    exact hwaiting.congr rfl rfl rfl fun _ _ => rfl
  | wake => exact h.setPhase hstands
  | ask => exact h.ask hstands _ now
  | flush stopping i call phase recorder hlast hcall hstep hnew => exact h.flush hlast hcall hnew
  | skip stopping finish flushed hempty =>
    obtain ⟨i, call, hlast, hcall, -, hdone, -⟩ := hstands
    exact h.setPhase ⟨i, hlast, call, flushed, hcall, hdone, .inl hempty⟩
  | handOver stopping finish flushed hfull =>
    obtain ⟨i, call, hlast, hcall, -, hdone, hnew⟩ := hstands
    exact h.setPhase ⟨i, call, hlast, hcall, hdone, hfull, hnew⟩
  | deliver stopping i flushed hlast =>
    obtain ⟨j, call, hlast', hcall, hdone, hfull, hnew⟩ := hstands
    obtain rfl : i = j := congrArg OwnFlush.number (hlast.eq_of_getLast? hlast'.getLast?_eq)
    exact h.deliver hlast hcall hdone hfull hnew
  | resume =>
    obtain ⟨i, hlast, hsettled⟩ := hstands
    exact h.setPhase (hlast.past_all hsettled)
  | exit => exact h.setPhase hstands

/-- **What others do** leaves the thread's flushes alone. -/
theorem getElem?_flushes_of_allows {call : Traffic.Action} (hallows : service.allows call = true)
    {traffic : Traffic P} (hstep : service.traffic.step? call = some traffic) {own : OwnFlush}
    (hown : own ∈ service.own) :
    traffic.flushes[own.number]? = service.traffic.flushes[own.number]? := by
  rcases Traffic.step?_cases hstep with ⟨sample, -, -, rfl⟩ | ⟨sample, recording, -, -, rfl⟩ |
    ⟨finish, -, rfl⟩ | ⟨i, now, other, phase, recorder, rfl, hother, -, rfl⟩
  · rfl
  · rfl
  · exact List.getElem?_append_left (h.lt_length own hown)
  · have hne : own.number ≠ i := by
      have hall := List.all_eq_true.1 hallows own hown
      exact of_decide_eq_true hall
    rw [Traffic.flushes_flushStep hother, if_neg hne]

/-- **Every step leaves the service tied.** -/
theorem step {service' : Service P} {action : Action}
    (hstep : service.step? action = some service') : service'.Tied := by
  rcases step?_cases hstep with ⟨call, traffic, -, hallows, htraffic, rfl⟩ |
    ⟨now, next, -, hnext, rfl⟩ | ⟨-, -, rfl⟩ | ⟨-, -, -, -, rfl⟩ | ⟨-, -, -, -, rfl⟩
  · exact h.congr rfl rfl rfl fun own hown => h.getElem?_flushes_of_allows hallows htraffic hown
  · exact h.thread (h.threadMakes hnext)
  · exact h.congr rfl rfl rfl fun _ _ => rfl
  · exact h.congr rfl rfl rfl fun _ _ => rfl
  · exact h.congr rfl rfl rfl fun _ _ => rfl

/-- What a step is to the recorder is a step of one of its calls, if it is anything. -/
theorem traffic_of_step? {service' : Service P} {action : Action}
    (hstep : service.step? action = some service') :
    service'.traffic = service.traffic ∨
      ∃ call, service.traffic.step? call = some service'.traffic := by
  rcases step?_cases hstep with ⟨call, traffic, -, -, hnext, rfl⟩ | ⟨now, next, -, hnext, rfl⟩ |
    ⟨-, -, rfl⟩ | ⟨-, -, -, -, rfl⟩ | ⟨-, -, -, -, rfl⟩
  · exact .inr ⟨call, hnext⟩
  · exact (h.threadMakes hnext).traffic
  · exact .inl rfl
  · exact .inl rfl
  · exact .inl rfl

end Tied

theorem tied_started (traffic : Traffic P) (interval : Duration) :
    (started traffic ⟨interval, false, .new⟩).Tied where
  lt_length := fun _ hmem => absurd hmem List.not_mem_nil
  nodup := List.nodup_nil
  stands := fun _ hmem => absurd hmem List.not_mem_nil
  exports_length := rfl
  exported := by
    intro k i flushed hk
    cases hk
  exports_nodup := List.nodup_nil

end Service

end StackProfiler
