import StackProfiler.Json.Number
import StackProfiler.Json.Strings
/-!
# Skipping a value

A value that nobody wants is only checked for being JSON. The brackets that are open are kept on a stack,
so values may nest to any depth.
-/

namespace StackProfiler

namespace Json

/-- The two kinds of brackets, by what they hold. -/
inductive Bracket
  | array
  | object
  deriving DecidableEq

/-- Looks for the next part between brackets. -/
def Bracket.turn : Bracket → Bool → List Char → Except Fault Turn
  | .array => arrayTurn
  | .object => objectTurn

/-- Skips what stands before the value in a part: in an object, the rest of a key and the colon. -/
def Bracket.skipKey : Bracket → List Char → Except Fault (List Char)
  | .array, s => .ok s
  | .object, s =>
    match skipChars s with
    | .error fault => .error fault
    | .ok s => afterColon s

/-- Skips a value that has no parts, or the bracket that opens one. -/
def skipHead (s : List Char) : Except Fault (Option Bracket × List Char) :=
  match skipBlank s with
  | [] => .error .ended
  | c :: s =>
    if c = '[' then .ok (some .array, s)
    else if c = '{' then .ok (some .object, s)
    else (fun rest => (none, rest)) <$>
      if c = 'n' then afterWord ['u', 'l', 'l'] s
      else if c = 't' then afterWord ['r', 'u', 'e'] s
      else if c = 'f' then afterWord ['a', 'l', 's', 'e'] s
      else if c = '"' then skipChars s
      else if c = '-' then skipNumber s
      else if c.isDigit then skipNumber (c :: s)
      else .error .malformed

theorem Bracket.turn_length_le {bracket : Bracket} {fresh : Bool} {s : List Char} {turn : Turn}
    (h : bracket.turn fresh s = .ok turn) : turn.rest.length ≤ s.length := by
  cases bracket with
  | array => exact arrayTurn_length_le h
  | object => exact Nat.le_of_lt (objectTurn_length_lt h)

theorem Bracket.turn_close_length_lt {bracket : Bracket} {fresh : Bool} {s rest : List Char}
    (h : bracket.turn fresh s = .ok (.close rest)) : rest.length < s.length := by
  cases bracket with
  | array => exact arrayTurn_close_length_lt h
  | object => exact objectTurn_length_lt h

theorem Bracket.skipKey_length_le {bracket : Bracket} {s rest : List Char}
    (h : bracket.skipKey s = .ok rest) : rest.length ≤ s.length := by
  cases bracket with
  | array => cases h; exact Nat.le_refl _
  | object =>
    simp only [Bracket.skipKey] at h
    split at h
    · cases h
    · next chars =>
      exact Nat.le_of_lt (Nat.lt_trans (afterColon_length_lt h) (skipChars_length_lt chars))

theorem skipHead_length_lt {s rest : List Char} {opened : Option Bracket}
    (h : skipHead s = .ok (opened, rest)) : rest.length < s.length := by
  have le := skipBlank_length_le s
  unfold skipHead at h
  split at h
  · cases h
  · next c t eq =>
    rw [eq, List.length_cons] at le
    have done : rest.length ≤ t.length := by
      split at h
      · cases h; exact Nat.le_refl _
      · split at h
        · cases h; exact Nat.le_refl _
        · obtain ⟨r, read, eq⟩ := map_eq_ok_iff.1 h
          cases eq
          repeat' split at read
          · exact afterWord_length_le read
          · exact afterWord_length_le read
          · exact afterWord_length_le read
          · exact Nat.le_of_lt (skipChars_length_lt read)
          · exact Nat.le_of_lt (skipNumber_length_lt read)
          · exact Nat.le_of_lt_succ (skipNumber_length_lt read)
          · cases read
    omega

/-- Skips the rest of a value in which the given brackets are open, the innermost first; `fresh` tells
that the innermost has had no part yet. -/
def skipOpened (opened : List Bracket) (fresh : Bool) (s : List Char) : Except Fault (List Char) :=
  match opened with
  | [] => .ok s
  | bracket :: outer =>
    match turn : bracket.turn fresh s with
    | .error fault => .error fault
    | .ok (.close rest) =>
      have := Bracket.turn_close_length_lt turn
      skipOpened outer false rest
    | .ok (.next part) =>
      match key : bracket.skipKey part with
      | .error fault => .error fault
      | .ok value =>
        match head : skipHead value with
        | .error fault => .error fault
        | .ok (none, rest) =>
          have : rest.length < s.length :=
            Nat.lt_of_lt_of_le (skipHead_length_lt head)
              (Nat.le_trans (Bracket.skipKey_length_le key) (Bracket.turn_length_le turn))
          skipOpened (bracket :: outer) false rest
        | .ok (some inner, rest) =>
          have : rest.length < s.length :=
            Nat.lt_of_lt_of_le (skipHead_length_lt head)
              (Nat.le_trans (Bracket.skipKey_length_le key) (Bracket.turn_length_le turn))
          skipOpened (inner :: bracket :: outer) true rest
termination_by s.length

/-- Skipping goes on behind each part of the innermost brackets. -/
theorem skipOpened_cons (bracket : Bracket) (outer : List Bracket) (fresh : Bool) (s : List Char) :
    skipOpened (bracket :: outer) fresh s = (do
      match ← bracket.turn fresh s with
      | .close rest => skipOpened outer false rest
      | .next part =>
        match ← skipHead (← bracket.skipKey part) with
        | (none, rest) => skipOpened (bracket :: outer) false rest
        | (some inner, rest) => skipOpened (inner :: bracket :: outer) true rest) := by
  rw [skipOpened]
  split
  · simp [*, bind, Except.bind]
  · simp [*, bind, Except.bind]
  · simp only [*, bind, Except.bind]
    split
    · simp [*]
    · simp only [*]
      split <;> simp [*]

/-- What follows the value at the front of a text. -/
def skipValue (s : List Char) : Except Fault (List Char) :=
  match skipHead s with
  | .error fault => .error fault
  | .ok (none, rest) => .ok rest
  | .ok (some bracket, rest) => skipOpened [bracket] true rest

theorem skipOpened_length_le {opened : List Bracket} {fresh : Bool} {s rest : List Char}
    (h : skipOpened opened fresh s = .ok rest) : rest.length ≤ s.length := by
  fun_induction skipOpened opened fresh s with
  | case1 => cases h; exact Nat.le_refl _
  | case2 => cases h
  | case3 _ _ _ _ _ _ lt ih => exact Nat.le_trans (ih h) (Nat.le_of_lt lt)
  | case4 => cases h
  | case5 => cases h
  | case6 _ _ _ _ _ _ _ _ _ _ lt ih => exact Nat.le_trans (ih h) (Nat.le_of_lt lt)
  | case7 _ _ _ _ _ _ _ _ _ _ _ lt ih => exact Nat.le_trans (ih h) (Nat.le_of_lt lt)

theorem skipValue_length_lt {s rest : List Char} (h : skipValue s = .ok rest) :
    rest.length < s.length := by
  unfold skipValue at h
  split at h
  · cases h
  · next head => cases h; exact skipHead_length_lt head
  · next head => exact Nat.lt_of_le_of_lt (skipOpened_length_le h) (skipHead_length_lt head)

end Json

end StackProfiler
