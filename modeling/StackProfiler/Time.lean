/-!
# Time

Instants are nanoseconds from the epoch and durations are counts of nanoseconds, both exact. The
bounds are those of a clock that keeps whole seconds in 64 bits, and they are such that the time from
one instant to a later one is always a duration (`Instant.since`).
-/

namespace StackProfiler

/-- A length of time in nanoseconds; its whole seconds fit 64 bits. -/
structure Duration where
  nanos : Nat
  nanos_lt : nanos < 18_446_744_073_709_551_616_000_000_000
  deriving DecidableEq

namespace Duration

instance : LT Duration := ⟨fun a b => a.nanos < b.nanos⟩

instance : LE Duration := ⟨fun a b => a.nanos ≤ b.nanos⟩

instance (a b : Duration) : Decidable (a < b) := inferInstanceAs (Decidable (a.nanos < b.nanos))

instance (a b : Duration) : Decidable (a ≤ b) := inferInstanceAs (Decidable (a.nanos ≤ b.nanos))

/-- No time at all. -/
def zero : Duration := ⟨0, by decide⟩

/-- A number of whole milliseconds. -/
def ofMillis (n : UInt64) : Duration :=
  ⟨n.toNat * 1_000_000, by have := n.toNat_lt; omega⟩

/-- A number of whole seconds and nanoseconds, if that is not too long. -/
def ofParts? (seconds nanos : Nat) : Option Duration :=
  if h : seconds * 1_000_000_000 + nanos < 18_446_744_073_709_551_616_000_000_000 then some ⟨_, h⟩
  else none

/-- The whole milliseconds of a duration, reduced to 64 bits. -/
def millis (d : Duration) : UInt64 :=
  UInt64.ofNat (d.nanos / 1_000_000)

/-- The time by which a duration exceeds an earlier one, and none if it does not. -/
def saturatingSub (a b : Duration) : Duration :=
  ⟨a.nanos - b.nanos, by have := a.nanos_lt; omega⟩

/-- The decimals of `n` behind the point, `width` places wide, without the zeros at their end; without
decimals the point goes too. -/
def fraction (n width : Nat) : String :=
  let digits := (Nat.toDigits 10 n).leftpad width '0'
  match (digits.reverse.dropWhile (· = '0')).reverse with
  | [] => ""
  | kept => String.ofList ('.' :: kept)

/-- The duration in the largest unit of which it holds at least one, with all its decimals. -/
def text (d : Duration) : String :=
  if 1_000_000_000 ≤ d.nanos then s!"{d.nanos / 1_000_000_000}{fraction (d.nanos % 1_000_000_000) 9}s"
  else if 1_000_000 ≤ d.nanos then s!"{d.nanos / 1_000_000}{fraction (d.nanos % 1_000_000) 6}ms"
  else if 1_000 ≤ d.nanos then s!"{d.nanos / 1_000}{fraction (d.nanos % 1_000) 3}µs"
  else s!"{d.nanos}ns"

end Duration

/-- A point in time: nanoseconds from the epoch, negative before it; the whole seconds fit 64 bits. -/
structure Instant where
  nanos : Int
  nanos_ge : -9_223_372_036_854_775_808_000_000_000 ≤ nanos
  nanos_lt : nanos < 9_223_372_036_854_775_808_000_000_000
  deriving DecidableEq

namespace Instant

/-- Where time is counted from. -/
def epoch : Instant := ⟨0, by decide, by decide⟩

/-- The instant so many whole seconds and nanoseconds from the epoch, if that is in range. -/
def ofParts? (seconds : Int) (nanos : Nat) : Option Instant :=
  if h : -9_223_372_036_854_775_808_000_000_000 ≤ seconds * 1_000_000_000 + nanos ∧
      seconds * 1_000_000_000 + nanos < 9_223_372_036_854_775_808_000_000_000 then
    some ⟨_, h.1, h.2⟩
  else none

/-- The time from `earlier` to `t`; none if `t` is the earlier of the two. -/
def since (t earlier : Instant) : Option Duration :=
  if earlier.nanos ≤ t.nanos then
    some ⟨(t.nanos - earlier.nanos).toNat, by
      have := t.nanos_lt
      have := earlier.nanos_ge
      omega⟩
  else none

end Instant

end StackProfiler
