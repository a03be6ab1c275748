import StackProfiler.Json.Reader
/-!
# Numbers

A number without fraction and exponent that fits 64 bits is an integer; every other number, and `-0`, is
a floating point number. Of a long number as many digits count as fit 64 bits, and its value is the
significand scaled by powers of ten of at most `1e308` at a time. A value beyond the floating point
range is no number.
-/

namespace StackProfiler

namespace Json

/-- A number that has been read. -/
inductive Number
  | integer (value : Int)
  | float (bits : UInt64)
  deriving DecidableEq

/-- The number as something found in a text. -/
def Number.found : Number → Found
  | .integer value => .integer value
  | .float bits => .float bits

/-! ## Floating point values -/

/-- A power of ten as a floating point number. -/
def powerOfTen (n : Nat) : Float := Float.ofScientific 1 false n

/-- Divides by a power of ten, by `1e308` at a time. -/
def divideByPower (x : Float) (n : Nat) : Float :=
  if n ≤ 308 then x / powerOfTen n
  else if x == 0 then x
  else divideByPower (x / powerOfTen 308) (n - 308)
termination_by n

/-- The floating point number of a sign, a significand below `2 ^ 64` and a decimal exponent. -/
def floatOfParts (negative : Bool) (significand : Nat) (exponent : Int) : Except Fault Number :=
  let x := (UInt64.ofNat significand).toFloat
  let signed := fun (x : Float) => Number.float (if negative then -x else x).toBits
  if exponent < 0 then .ok (signed (divideByPower x exponent.natAbs))
  else if exponent ≤ 308 then
    let y := x * powerOfTen exponent.natAbs
    if y.isInf then .error .malformed else .ok (signed y)
  else if significand = 0 then .ok (signed x)
  else .error .malformed

/-! ## Parts of a number -/

/-- The value of a decimal digit. -/
def digitValue (c : Char) : Nat := c.toNat - '0'.toNat

/-- Whether a digit comes next. -/
def digitNext : List Char → Bool
  | [] => false
  | c :: _ => c.isDigit

/-- Takes digits behind those that make `n` as long as the number fits 64 bits, and counts them. -/
def takeDigits (n count : Nat) : List Char → Nat × Nat × List Char
  | [] => (n, count, [])
  | c :: s =>
    if c.isDigit && n * 10 + digitValue c < UInt64.size then
      takeDigits (n * 10 + digitValue c) (count + 1) s
    else (n, count, c :: s)

/-- Reads the digits before the point: the number they make, how many digits at their end did not fit
it, and the rest. No other digit follows a zero in front. -/
def readWhole (s : List Char) : Except Fault (Nat × Nat × List Char) :=
  match s with
  | [] => .error .ended
  | c :: s =>
    if c = '0' then if digitNext s then .error .malformed else .ok (0, 0, s)
    else if c.isDigit then
      let (n, _, rest) := takeDigits (digitValue c) 1 s
      .ok (n, (rest.takeWhile Char.isDigit).length, rest.dropWhile Char.isDigit)
    else .error .malformed

/-- Reads the digits behind the point: the significand they extend, how many of them it took up, and the
rest. -/
def readFraction (significand : Nat) (s : List Char) : Except Fault (Nat × Nat × List Char) :=
  let (n, count, rest) := takeDigits significand 0 s
  if digitNext rest then .ok (n, count, rest.dropWhile Char.isDigit)
  else if count = 0 then if rest = [] then .error .ended else .error .malformed
  else .ok (n, count, rest)

/-- The text without the sign in front, and whether that is a minus. -/
def splitSign (s : List Char) : Bool × List Char :=
  match s with
  | '-' :: s => (true, s)
  | '+' :: s => (false, s)
  | s => (false, s)

/-- Reads an exponent, from behind its letter. -/
def readExponent (s : List Char) : Except Fault (Int × List Char) :=
  let (negative, s) := splitSign s
  match s with
  | [] => .error .ended
  | c :: s =>
    if c.isDigit then
      let n : Int := ((c :: s).takeWhile Char.isDigit).foldl (fun n c => n * 10 + digitValue c) 0
      .ok (if negative then -n else n, (c :: s).dropWhile Char.isDigit)
    else .error .malformed

/-- Reads what follows a significand: an exponent or nothing. `shift` is the exponent it has so far. -/
def readScaled (negative : Bool) (significand : Nat) (shift : Int) (s : List Char) :
    Except Fault (Number × List Char) :=
  match s with
  | [] => (floatOfParts negative significand shift).map fun x => (x, [])
  | c :: s =>
    if c = 'e' || c = 'E' then
      match readExponent s with
      | .error fault => .error fault
      | .ok (exponent, rest) =>
        (floatOfParts negative significand (shift + exponent)).map fun x => (x, rest)
    else (floatOfParts negative significand shift).map fun x => (x, c :: s)

/-- The number of a sign and digits alone. Zero with a sign and what does not fit 64 bits with it are
floating point numbers. -/
def integerOfParts (negative : Bool) (n : Nat) : Except Fault Number :=
  if !negative then .ok (.integer n)
  else if n = 0 || 9_223_372_036_854_775_808 < n then floatOfParts true n 0
  else .ok (.integer (-n))

/-- Reads the number whose digits begin the text. -/
def readUnsigned (negative : Bool) (s : List Char) : Except Fault (Number × List Char) :=
  match readWhole s with
  | .error fault => .error fault
  | .ok (n, dropped, []) =>
    (if dropped = 0 then integerOfParts negative n else floatOfParts negative n dropped).map
      fun x => (x, [])
  | .ok (n, dropped, c :: rest) =>
    if c = '.' then
      match readFraction n rest with
      | .error fault => .error fault
      | .ok (n, count, rest) => readScaled negative n ((dropped : Int) - count) rest
    else if c = 'e' || c = 'E' || dropped ≠ 0 then readScaled negative n dropped (c :: rest)
    else (integerOfParts negative n).map fun x => (x, c :: rest)

/-- Reads the number that begins the text. -/
def readNumber (s : List Char) : Except Fault (Number × List Char) :=
  match s with
  | '-' :: s => readUnsigned true s
  | s => readUnsigned false s

/-! ## What is left is shorter -/

theorem takeDigits_length_le (n count : Nat) (s : List Char) :
    (takeDigits n count s).2.2.length ≤ s.length := by
  fun_induction takeDigits n count s with
  | case1 => exact Nat.le_refl _
  | case2 _ _ _ _ _ ih => exact Nat.le_succ_of_le ih
  | case3 => exact Nat.le_refl _

theorem dropDigits_length_le (s : List Char) : (s.dropWhile Char.isDigit).length ≤ s.length :=
  (List.dropWhile_sublist _).length_le

theorem readWhole_length_lt {s rest : List Char} {n dropped : Nat}
    (h : readWhole s = .ok (n, dropped, rest)) : rest.length < s.length := by
  unfold readWhole at h
  split at h
  · cases h
  · next c s =>
    refine Nat.lt_succ_of_le ?_
    split at h
    · split at h
      · cases h
      · cases h; exact Nat.le_refl _
    · split at h
      · cases h
        exact Nat.le_trans (dropDigits_length_le _) (takeDigits_length_le _ _ _)
      · cases h

theorem readFraction_length_le {s rest : List Char} {significand n count : Nat}
    (h : readFraction significand s = .ok (n, count, rest)) : rest.length ≤ s.length := by
  have le := takeDigits_length_le significand 0 s
  simp only [readFraction] at h
  split at h
  · cases h; exact Nat.le_trans (dropDigits_length_le _) le
  · split at h
    · split at h <;> cases h
    · cases h; exact le

theorem splitSign_length_le (s : List Char) : (splitSign s).2.length ≤ s.length := by
  unfold splitSign
  split <;> simp

theorem readExponent_length_lt {s rest : List Char} {n : Int}
    (h : readExponent s = .ok (n, rest)) : rest.length < s.length := by
  have le := splitSign_length_le s
  simp only [readExponent] at h
  split at h
  · cases h
  · next c t eq =>
    split at h
    · next digit =>
      cases h
      rw [eq] at le
      have := dropDigits_length_le t
      simp only [List.dropWhile_cons, digit, if_true]
      simp only [List.length_cons] at le
      omega
    · cases h

theorem readScaled_length_le {negative : Bool} {significand : Nat} {shift : Int}
    {s rest : List Char} {x : Number} (h : readScaled negative significand shift s = .ok (x, rest)) :
    rest.length ≤ s.length := by
  unfold readScaled at h
  split at h
  · obtain ⟨y, _, eq⟩ := map_eq_ok_iff.1 h
    cases eq; exact Nat.le_refl _
  · split at h
    · split at h
      · cases h
      · next exponent =>
        obtain ⟨y, _, eq⟩ := map_eq_ok_iff.1 h
        cases eq
        exact Nat.le_succ_of_le (Nat.le_of_lt (readExponent_length_lt exponent))
    · obtain ⟨y, _, eq⟩ := map_eq_ok_iff.1 h
      cases eq; exact Nat.le_refl _

theorem readUnsigned_length_lt {negative : Bool} {s rest : List Char} {x : Number}
    (h : readUnsigned negative s = .ok (x, rest)) : rest.length < s.length := by
  unfold readUnsigned at h
  split at h
  · cases h
  · next whole =>
    obtain ⟨y, _, eq⟩ := map_eq_ok_iff.1 h
    cases eq
    exact readWhole_length_lt whole
  · next whole =>
    refine Nat.lt_of_le_of_lt ?_ (readWhole_length_lt whole)
    split at h
    · split at h
      · cases h
      · next fraction =>
        exact Nat.le_succ_of_le
          (Nat.le_trans (readScaled_length_le h) (readFraction_length_le fraction))
    · split at h
      · exact readScaled_length_le h
      · obtain ⟨y, _, eq⟩ := map_eq_ok_iff.1 h
        cases eq; exact Nat.le_refl _

theorem readNumber_length_lt {s rest : List Char} {x : Number}
    (h : readNumber s = .ok (x, rest)) : rest.length < s.length := by
  unfold readNumber at h
  split at h
  · exact Nat.lt_succ_of_lt (readUnsigned_length_lt h)
  · exact readUnsigned_length_lt h

/-! ## Numbers that are only skipped -/

/-- Skips digits, of which there has to be one. -/
def skipDigits (s : List Char) : Except Fault (List Char) :=
  if digitNext s then .ok (s.dropWhile Char.isDigit) else .error .malformed

/-- Skips an exponent if one is next. -/
def skipExponent (s : List Char) : Except Fault (List Char) :=
  match s with
  | [] => .ok []
  | c :: s => if c = 'e' || c = 'E' then skipDigits (splitSign s).2 else .ok (c :: s)

/-- Skips a fraction if one is next, and then an exponent. -/
def skipFraction (s : List Char) : Except Fault (List Char) :=
  match s with
  | '.' :: s =>
    match skipDigits s with
    | .error fault => .error fault
    | .ok s => skipExponent s
  | s => skipExponent s

/-- Skips a number without its sign. Of a number whose value nobody wants any part may have any size, and
one that is cut off is not a number. -/
def skipNumber (s : List Char) : Except Fault (List Char) :=
  match s with
  | [] => .error .malformed
  | c :: s =>
    if c = '0' then if digitNext s then .error .malformed else skipFraction s
    else if c.isDigit then skipFraction (s.dropWhile Char.isDigit)
    else .error .malformed

theorem skipDigits_length_le {s rest : List Char} (h : skipDigits s = .ok rest) :
    rest.length ≤ s.length := by
  unfold skipDigits at h
  split at h
  · cases h; exact dropDigits_length_le s
  · cases h

theorem skipExponent_length_le {s rest : List Char} (h : skipExponent s = .ok rest) :
    rest.length ≤ s.length := by
  unfold skipExponent at h
  split at h
  · cases h; exact Nat.le_refl _
  · split at h
    · exact Nat.le_succ_of_le (Nat.le_trans (skipDigits_length_le h) (splitSign_length_le _))
    · cases h; exact Nat.le_refl _

theorem skipFraction_length_le {s rest : List Char} (h : skipFraction s = .ok rest) :
    rest.length ≤ s.length := by
  unfold skipFraction at h
  split at h
  · split at h
    · cases h
    · next digits =>
      exact Nat.le_succ_of_le
        (Nat.le_trans (skipExponent_length_le h) (skipDigits_length_le digits))
  · exact skipExponent_length_le h

theorem skipNumber_length_lt {s rest : List Char} (h : skipNumber s = .ok rest) :
    rest.length < s.length := by
  unfold skipNumber at h
  split at h
  · cases h
  · refine Nat.lt_succ_of_le ?_
    split at h
    · split at h
      · cases h
      · exact skipFraction_length_le h
    · split at h
      · exact Nat.le_trans (skipFraction_length_le h) (dropDigits_length_le _)
      · cases h

end Json

end StackProfiler
