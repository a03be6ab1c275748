import StackProfiler.Proofs.Recorder.Steps
/-!
# Recorders — who holds which lock

While calls overlap, the lock of a slot is held by a recording that is in it, or
it is held back by the recorder for the flush whose turn it is. `Guarded` says
which slot is held back at every point of a flush; every step of a recording
(`Guarded.recording`) and every step of the flush (`Guarded.flush`) keeps it.
-/

namespace StackProfiler

/-! ## Where a call stands -/

/-- The slot that a recording has locked. -/
def Recording.slot? : Recording → Option SlotId
  | .adding slot | .releasing slot => some slot
  | .trying .. | .dropping | .done _ => none

namespace Flush

variable {P : Type}

/-- Whether a flush holds the lock that keeps flushes apart. -/
def inside : Flush P → Bool
  | .entering | .done _ => false
  | .looking | .stamping .. | .opening .. | .locking .. | .switching .. | .taking .. | .leaving _ =>
    true

/-- A flush has not entered, is inside or has returned. -/
theorem entering_or_inside_or_done (flush : Flush P) :
    flush = .entering ∨ flush.inside = true ∨ flush.result?.isSome := by
  cases flush <;> first | exact .inl rfl | exact .inr (.inl rfl) | exact .inr (.inr rfl)

/-- One that has returned is not inside. -/
theorem inside_of_result? {flush : Flush P} (h : flush.result?.isSome) : flush.inside = false := by
  cases flush <;> first | rfl | cases h

/-- And it makes no step. -/
theorem result?_of_step? [ProfileStore P] {finish now : Instant} {recorder : Recorder P}
    {flush : Flush P} {next : Flush P × Recorder P}
    (h : flush.step? finish now recorder = some next) : ¬ flush.result?.isSome := by
  intro hresult
  cases flush with
  | done flushed => cases h
  | _ => cases hresult

/-- The slot that is held back while a flush stands here. Between the opening of
the one and the locking of the other there is none. -/
def reserved? (active : SlotId) : Flush P → Option SlotId
  | .entering | .looking | .leaving _ | .done _ => some active.other
  | .stamping old _ | .opening old _ => some old.other
  | .locking .. => none
  | .switching old _ | .taking old _ => some old

/-- The slot a flush remembers as the old one is the active one, until it has
named the other. -/
def Remembers (active : SlotId) : Flush P → Prop
  | .stamping old _ | .opening old _ | .locking old _ | .switching old _ => active = old
  | .taking old _ => active = old.other
  | .entering | .looking | .leaving _ | .done _ => True

end Flush

namespace Recorder

variable {P : Type}

/-- **The locks of a recorder**, with the slot that a recording is in and the
flush whose turn it is: a slot is locked if it is held back or if the recording
is in it, and it is never both. -/
structure Guarded (recorder : Recorder P) (holding : Option SlotId) (turn : Flush P) :
    Prop where
  flushing : recorder.flushing = turn.inside
  remembers : turn.Remembers recorder.active
  locked_iff : ∀ id, (recorder.slot id).locked = true ↔
    turn.reserved? recorder.active = some id ∨ holding = some id
  apart : ∀ id, holding = some id → turn.reserved? recorder.active ≠ some id

theorem guarded_new [ProfileStore P] (enabled : EnabledMetrics) (now : Instant) :
    (new enabled now : Recorder P).Guarded none .entering where
  flushing := rfl
  remembers := trivial
  locked_iff := by
    intro id
    cases id <;> simp [new, slot, Flush.reserved?, SlotId.other]
  apart := by
    intro id h
    cases h

namespace Guarded

variable {recorder : Recorder P} {holding : Option SlotId} {turn : Flush P}
variable (h : recorder.Guarded holding turn)
include h

/-- Of the flush whose turn it is, only what it holds and remembers matters. -/
theorem congr {other : Flush P} (hinside : other.inside = turn.inside)
    (hremembers : other.Remembers recorder.active)
    (hreserved : other.reserved? recorder.active = turn.reserved? recorder.active) :
    recorder.Guarded holding other where
  flushing := by rw [h.flushing, hinside]
  remembers := hremembers
  locked_iff := by
    rw [hreserved]
    exact h.locked_iff
  apart := by
    rw [hreserved]
    exact h.apart

/-- While no flush is inside it does not matter which is looked at. -/
theorem congr_outside {other : Flush P} (hturn : turn.inside = false)
    (hother : other.inside = false) : recorder.Guarded holding other := by
  -- outside, a flush always holds back the slot that is not active
  have houtside : ∀ flush : Flush P, flush.inside = false →
      flush.Remembers recorder.active ∧
        flush.reserved? recorder.active = some recorder.active.other := by
    intro flush hflush
    cases flush <;> first | exact ⟨trivial, rfl⟩ | cases hflush
  refine h.congr (by rw [hturn, hother]) (houtside other hother).1 ?_
  rw [(houtside other hother).2, (houtside turn hturn).2]

/-- What the stores hold does not matter. -/
theorem setStore (id : SlotId) (store : P) : (recorder.setStore id store).Guarded holding turn where
  flushing := by simpa [Recorder.setStore] using h.flushing
  remembers := by simpa [Recorder.setStore] using h.remembers
  locked_iff := by
    intro other
    have hlocked : ((recorder.setStore id store).slot other).locked =
        (recorder.slot other).locked := by
      by_cases hid : other = id
      · subst hid
        simp [Recorder.setStore]
      · simp [Recorder.setStore, hid]
    rw [hlocked, Recorder.setStore, active_setSlot]
    exact h.locked_iff other
  apart := by
    rw [Recorder.setStore, active_setSlot]
    exact h.apart

/-- A lock changes hands with those who have it. -/
theorem setLocked {id : SlotId} {locked : Bool} {holding' : Option SlotId} {turn' : Flush P}
    (hinside : turn'.inside = turn.inside) (hremembers : turn'.Remembers recorder.active)
    (hid : locked = true ↔ turn'.reserved? recorder.active = some id ∨ holding' = some id)
    (hother : ∀ other, other ≠ id →
      ((turn'.reserved? recorder.active = some other ∨ holding' = some other) ↔
        (turn.reserved? recorder.active = some other ∨ holding = some other)))
    (hapart : ∀ other, holding' = some other → turn'.reserved? recorder.active ≠ some other) :
    (recorder.setLocked id locked).Guarded holding' turn' where
  flushing := by simpa [Recorder.setLocked, hinside] using h.flushing
  remembers := by simpa [Recorder.setLocked] using hremembers
  locked_iff := by
    intro other
    rw [Recorder.setLocked, active_setSlot, slot_setSlot]
    by_cases hne : other = id
    · rw [if_pos hne, hne]
      exact hid
    · rw [if_neg hne, hother other hne]
      exact h.locked_iff other
  apart := by
    rw [Recorder.setLocked, active_setSlot]
    exact hapart

variable [ProfileStore P]

/-- **A step of a recording** keeps the locks in order. -/
theorem recording {recording : Recording} (hslot : recording.slot? = holding) (sample : Sample) :
    (recording.step sample recorder).2.Guarded (recording.step sample recorder).1.slot? turn := by
  subst hslot
  cases recording with
  | trying round slot =>
    by_cases htaken : (recorder.slot slot).locked = true
    · have hmiss : (Recording.afterMiss round slot).slot? = none := by
        cases slot
        · rfl
        · simp only [Recording.afterMiss]
          split <;> rfl
      simp only [Recording.step, if_pos htaken, hmiss]
      exact h
    · -- the slot was free, so it is not the one held back
      have hfree : turn.reserved? recorder.active ≠ some slot := fun hreserved =>
        htaken ((h.locked_iff slot).2 (.inl hreserved))
      simp only [Recording.step, if_neg htaken]
      refine h.setLocked rfl h.remembers ?_ ?_ ?_
      · simp [Recording.slot?]
      · intro other hne
        simp [Recording.slot?, Ne.symm hne]
      · intro other hholding
        obtain rfl : slot = other := Option.some.inj hholding
        exact hfree
  | adding slot => exact h.setStore slot _
  | releasing slot =>
    have hmine : turn.reserved? recorder.active ≠ some slot := h.apart slot rfl
    refine h.setLocked rfl h.remembers ?_ ?_ ?_
    · simp [Recording.slot?, Recording.step, hmine]
    · intro other hne
      simp [Recording.slot?, Recording.step, Ne.symm hne]
    · intro other hholding
      cases hholding
  | dropping => exact ⟨h.flushing, h.remembers, h.locked_iff, h.apart⟩
  | done outcome => exact h

/-- **A step of the flush whose turn it is** keeps the locks in order: the
opening gives back the lock that was held back, and the locking takes that of
the old slot only when no recording is in it. -/
theorem flush {finish now : Instant} {next : Flush P} {recorder' : Recorder P}
    (hstep : turn.step? finish now recorder = some (next, recorder')) :
    recorder'.Guarded holding next := by
  cases Flush.makes_of_step? hstep with
  | enter hfree => exact ⟨rfl, trivial, h.locked_iff, h.apart⟩
  | look => exact h.congr rfl rfl rfl
  | stamp old moment =>
    have hstamped := h.setStore old.other
      (ProfileStore.setStartTime moment (recorder.slot old.other).store)
    exact hstamped.congr rfl hstamped.remembers rfl
  | unlock old moment =>
    -- the slot was held back until now, so no recording is in it
    have hnobody : holding ≠ some old.other := fun hholding => h.apart _ hholding rfl
    refine h.setLocked rfl h.remembers ?_ ?_ ?_
    · simp [Flush.reserved?, hnobody]
    · intro other hne
      simp [Flush.reserved?, Ne.symm hne]
    · intro other _ hreserved
      cases hreserved
  | lock old moment hfree =>
    -- a recording in the old slot would have kept it locked
    have hnobody : holding ≠ some old := by
      intro hholding
      have hlocked := (h.locked_iff old).2 (.inr hholding)
      rw [hfree] at hlocked
      cases hlocked
    refine h.setLocked rfl h.remembers ?_ ?_ ?_
    · simp [Flush.reserved?]
    · intro other hne
      simp [Flush.reserved?, Ne.symm hne]
    · intro other hholding hreserved
      obtain rfl : old = other := Option.some.inj hreserved
      exact hnobody hholding
  | switch old moment => exact ⟨h.flushing, rfl, h.locked_iff, h.apart⟩
  | take old moment =>
    have hactive : recorder.active = old.other := h.remembers
    refine (h.setStore old _).congr rfl trivial ?_
    -- what was the old slot is now the other one of the active one
    rw [Flush.reserved?, Flush.reserved?, Recorder.setStore, active_setSlot, hactive,
      SlotId.other_other]
  | leave flushed => exact ⟨rfl, trivial, h.locked_iff, h.apart⟩

end Guarded

end Recorder

end StackProfiler
