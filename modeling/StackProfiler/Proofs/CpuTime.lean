import Mathlib.Algebra.Ring.Nat
import Mathlib.Data.List.Chain
import StackProfiler.CpuTime
/-!
# CPU time — what a run of readings is charged

A tracker charges each reading with what the clock has gained on the reading before
it, and goes on from that reading whether or not the clock has gone back. So the
charges of a run telescope: they come to the time between its first and its last
reading, and every setback on the way is charged a second time
(`CpuTracker.charged_add`).
-/

namespace StackProfiler

namespace Duration

/-- **How far a clock has gone back altogether**, setback by setback, in nanoseconds. -/
def setbacks (readings : List Duration) : Nat :=
  (List.zipWith (fun earlier now => earlier.nanos - now.nanos) readings readings.tail).sum

variable {readings : List Duration}

@[simp] theorem setbacks_singleton (reading : Duration) : setbacks [reading] = 0 := rfl

theorem setbacks_cons_cons (earlier now : Duration) (later : List Duration) :
    setbacks (earlier :: now :: later) = earlier.nanos - now.nanos + setbacks (now :: later) :=
  List.sum_cons

/-- A clock that never goes back has no setbacks. -/
theorem setbacks_eq_zero (h : readings.IsChain (· ≤ ·)) : setbacks readings = 0 := by
  induction h with
  | nil => rfl
  | singleton reading => rfl
  | @cons_cons earlier now later hle _ ih =>
    have hforth : earlier.nanos - now.nanos = 0 := Nat.sub_eq_zero_of_le hle
    rw [setbacks_cons_cons, hforth, ih]

/-- The setbacks of two runs in a row, with the one between them. -/
theorem setbacks_append (before : List Duration) (high low : Duration) (after : List Duration) :
    setbacks (before ++ high :: low :: after) =
      setbacks (before ++ [high]) + (high.nanos - low.nanos) + setbacks (low :: after) := by
  induction before with
  | nil => simp [setbacks_cons_cons]
  | cons reading before ih =>
    cases before with
    | nil => simp [setbacks_cons_cons, Nat.add_assoc]
    | cons reading' before =>
      simp only [List.cons_append, setbacks_cons_cons] at ih ⊢
      omega

end Duration

namespace CpuTracker

/-- What a reading is charged with that follows an earlier one. -/
def charge (earlier now : Duration) : UInt64 :=
  UInt64.ofNat (min (now.nanos - earlier.nanos) (UInt64.size - 1))

theorem toNat_charge (earlier now : Duration) :
    (charge earlier now).toNat = min (now.nanos - earlier.nanos) (UInt64.size - 1) := by
  have hlt : min (now.nanos - earlier.nanos) (UInt64.size - 1) < UInt64.size := by
    have : 0 < UInt64.size := by decide
    omega
  exact UInt64.toNat_ofNat_of_lt' hlt

/-- A step of the clock, in either direction: the charge makes up for it unless it is
too large to be charged in full. -/
theorem toNat_charge_add {earlier now : Duration}
    (hfits : now.nanos - earlier.nanos < UInt64.size) :
    (charge earlier now).toNat + earlier.nanos = now.nanos + (earlier.nanos - now.nanos) := by
  rw [toNat_charge]
  omega

/-- A tracker goes on from the last reading, whatever it was charged. -/
theorem observeAll_of_last (last : Duration) (readings : List Duration) :
    (⟨some last⟩ : CpuTracker).observeAll readings =
      List.zipWith charge (last :: readings) readings := by
  induction readings generalizing last with
  | nil => rfl
  | cons now later ih =>
    rw [observeAll, List.zipWith_cons_cons, ← ih]
    rfl

/-- The first reading is charged with nothing. -/
theorem observeAll_new (first : Duration) (later : List Duration) :
    ({} : CpuTracker).observeAll (first :: later) =
      0 :: List.zipWith charge (first :: later) later := by
  rw [← observeAll_of_last]
  rfl

/-- **What a run of readings is charged altogether**, by a new tracker and without any
bound. -/
def charged (readings : List Duration) : Nat :=
  ((({} : CpuTracker).observeAll readings).map UInt64.toNat).sum

@[simp] theorem charged_singleton (reading : Duration) : charged [reading] = 0 := rfl

theorem charged_cons_cons (earlier now : Duration) (later : List Duration) :
    charged (earlier :: now :: later) = (charge earlier now).toNat + charged (now :: later) := by
  rw [charged, charged, observeAll_new, observeAll_new]
  simp

/-- **No forward step is too large** to be charged in full. -/
def StepsFit (readings : List Duration) : Prop :=
  readings.IsChain fun earlier now => now.nanos - earlier.nanos < UInt64.size

/-- **The charges telescope.** -/
theorem charged_add (first : Duration) (later : List Duration) (hfits : StepsFit (first :: later)) :
    charged (first :: later) + first.nanos =
      ((first :: later).getLast (List.cons_ne_nil _ _)).nanos +
        Duration.setbacks (first :: later) := by
  induction later generalizing first with
  | nil => simp
  | cons now later ih =>
    obtain ⟨hstep, hrest⟩ := List.isChain_cons_cons.1 hfits
    have hnow := toNat_charge_add hstep
    have hlater := ih now hrest
    rw [charged_cons_cons, Duration.setbacks_cons_cons, List.getLast_cons_cons]
    omega

/-- **How the readings of a clock are accounted for**, the first of which is taken by a
new tracker. -/
structure Accounts (first : Duration) (later : List Duration) : Prop where
  /-- Each reading is charged once. -/
  length : (({} : CpuTracker).observeAll (first :: later)).length = (first :: later).length
  /-- The first with nothing. -/
  getElem?_zero : (({} : CpuTracker).observeAll (first :: later))[0]? = some 0
  /-- Every other with what it gained on the one before it, up to the largest word. -/
  getElem?_succ : ∀ (i : Nat) (earlier now : Duration), (first :: later)[i]? = some earlier →
    (first :: later)[i + 1]? = some now → ∃ delta,
      (({} : CpuTracker).observeAll (first :: later))[i + 1]? = some delta ∧
        delta.toNat = min (UInt64.size - 1) (now.nanos - earlier.nanos)
  /-- Altogether with the time from the first to the last, and with every setback. -/
  charged_eq : StepsFit (first :: later) → (charged (first :: later) : Int) =
    ((first :: later).getLast (List.cons_ne_nil _ _)).nanos - first.nanos +
      Duration.setbacks (first :: later)
  /-- A clock that never goes back is charged for the time that has passed, wherever the
  readings were taken. -/
  charged_of_isChain : StepsFit (first :: later) → (first :: later).IsChain (· ≤ ·) →
    (charged (first :: later) : Int) =
      ((first :: later).getLast (List.cons_ne_nil _ _)).nanos - first.nanos
  /-- One that goes back once is charged for the jump on top of that. -/
  charged_of_jump : ∀ (before : List Duration) (high low : Duration) (after : List Duration),
    first :: later = before ++ high :: low :: after → StepsFit (first :: later) →
    (before ++ [high]).IsChain (· ≤ ·) → low ≤ high → (low :: after).IsChain (· ≤ ·) →
    (charged (first :: later) : Int) =
      ((first :: later).getLast (List.cons_ne_nil _ _)).nanos - first.nanos +
        (high.nanos - low.nanos)

/-- **Every run of readings is accounted for**, however the clock goes. -/
theorem observeAll_accounts (first : Duration) (later : List Duration) :
    Accounts first later where
  length := by simp [observeAll_new]
  getElem?_zero := by simp [observeAll_new]
  getElem?_succ := by
    intro i earlier now hearlier hnow
    rw [List.getElem?_cons_succ] at hnow
    refine ⟨charge earlier now, ?_, by rw [toNat_charge, Nat.min_comm]⟩
    rw [observeAll_new, List.getElem?_cons_succ, List.getElem?_zipWith, hearlier, hnow]
  charged_eq := by
    intro hfits
    have htotal := charged_add first later hfits
    omega
  charged_of_isChain := by
    intro hfits hrising
    have htotal := charged_add first later hfits
    rw [Duration.setbacks_eq_zero hrising] at htotal
    omega
  charged_of_jump := by
    intro before high low after hreadings hfits hbefore hjump hafter
    have htotal := charged_add first later hfits
    have hback : Duration.setbacks (first :: later) = high.nanos - low.nanos := by
      rw [hreadings, Duration.setbacks_append, Duration.setbacks_eq_zero hbefore,
        Duration.setbacks_eq_zero hafter, Nat.zero_add, Nat.add_zero]
    have hle : low.nanos ≤ high.nanos := hjump
    omega

/-- Behind a setback of three milliseconds the clock is charged from where it went back
to. -/
example : ({} : CpuTracker).observeAll ([10, 15, 15, 12, 13].map Duration.ofMillis) =
    [0, 5_000_000, 0, 0, 1_000_000] := by
  decide

end CpuTracker

end StackProfiler
