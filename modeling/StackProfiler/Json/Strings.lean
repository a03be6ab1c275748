import StackProfiler.Json.Reader
/-!
# Strings

How a string is written and read. Writing escapes quotes, backslashes and control characters, and leaves
all else as it is. Reading takes any escape, and pairs of surrogates; a string whose value nobody
wants is only skipped, and its surrogates need no partner.
-/

namespace StackProfiler

namespace Json

/-! ## Writing -/

/-- One character of a string as it is written. -/
def escapeChar (c : Char) : List Char :=
  if c = '"' then ['\\', '"']
  else if c = '\\' then ['\\', '\\']
  else if c = '\x08' then ['\\', 'b']
  else if c = '\x0c' then ['\\', 'f']
  else if c = '\n' then ['\\', 'n']
  else if c = '\r' then ['\\', 'r']
  else if c = '\t' then ['\\', 't']
  else if c.toNat < 0x20 then
    ['\\', 'u', '0', '0', (c.toNat / 16).digitChar, (c.toNat % 16).digitChar]
  else [c]

/-- A string as it is written, in quotes. -/
def writeString (s : String) : List Char :=
  '"' :: s.toList.flatMap escapeChar ++ ['"']

/-! ## Escapes -/

/-- The value of a hexadecimal digit of either case. -/
def hexDigit? (c : Char) : Option Nat :=
  if '0' ≤ c && c ≤ '9' then some (c.toNat - '0'.toNat)
  else if 'a' ≤ c && c ≤ 'f' then some (c.toNat - 'a'.toNat + 10)
  else if 'A' ≤ c && c ≤ 'F' then some (c.toNat - 'A'.toNat + 10)
  else none

/-- How many bytes a text takes in UTF-8. -/
def byteCount (s : List Char) : Nat :=
  s.foldr (fun c n => c.utf8Size + n) 0

/-- Reads the four digits of a numeric escape. A text of fewer than four bytes ends within them. -/
def readHexQuad (s : List Char) : Except Fault (Nat × List Char) :=
  match s with
  | a :: b :: c :: d :: rest =>
    match hexDigit? a, hexDigit? b, hexDigit? c, hexDigit? d with
    | some a, some b, some c, some d => .ok (((a * 16 + b) * 16 + c) * 16 + d, rest)
    | _, _, _, _ => .error .malformed
  | _ => if byteCount s < 4 then .error .ended else .error .malformed

/-- The first half of a pair of surrogates. -/
def isHighSurrogate (n : Nat) : Bool := 0xD800 ≤ n && n ≤ 0xDBFF

/-- The second half of a pair of surrogates. -/
def isLowSurrogate (n : Nat) : Bool := 0xDC00 ≤ n && n ≤ 0xDFFF

/-- Reads the low surrogate that has to follow the high one. -/
def readLowSurrogate (high : Nat) (s : List Char) : Except Fault (Char × List Char) :=
  match afterWord ['\\', 'u'] s with
  | .error fault => .error fault
  | .ok s =>
    match readHexQuad s with
    | .error fault => .error fault
    | .ok (low, rest) =>
      if isLowSurrogate low then
        .ok (Char.ofNat (0x10000 + (high - 0xD800) * 0x400 + (low - 0xDC00)), rest)
      else .error .malformed

/-- Reads the character of a numeric escape, whose digits begin the text. -/
def readNumericEscape (s : List Char) : Except Fault (Char × List Char) :=
  match readHexQuad s with
  | .error fault => .error fault
  | .ok (n, rest) =>
    if isLowSurrogate n then .error .malformed
    else if isHighSurrogate n then readLowSurrogate n rest
    else .ok (Char.ofNat n, rest)

/-- The character that a letter behind a backslash stands for. -/
def letterEscape? : Char → Option Char
  | '"' => some '"'
  | '\\' => some '\\'
  | '/' => some '/'
  | 'b' => some '\x08'
  | 'f' => some '\x0c'
  | 'n' => some '\n'
  | 'r' => some '\r'
  | 't' => some '\t'
  | _ => none

/-- Reads the character of an escape, from behind the backslash. -/
def readEscape (s : List Char) : Except Fault (Char × List Char) :=
  match s with
  | [] => .error .ended
  | c :: s =>
    if c = 'u' then readNumericEscape s
    else
      match letterEscape? c with
      | some char => .ok (char, s)
      | none => .error .malformed

/-- Skips an escape, from behind the backslash. -/
def skipEscape (s : List Char) : Except Fault (List Char) :=
  match s with
  | [] => .error .ended
  | c :: s =>
    if c = 'u' then (readHexQuad s).map Prod.snd
    else
      match letterEscape? c with
      | some _ => .ok s
      | none => .error .malformed

theorem readHexQuad_length_le {s rest : List Char} {n : Nat}
    (h : readHexQuad s = .ok (n, rest)) : rest.length ≤ s.length := by
  unfold readHexQuad at h
  split at h
  · split at h
    · cases h; simp only [List.length_cons]; omega
    · cases h
  · split at h <;> cases h

theorem readLowSurrogate_length_le {high : Nat} {s rest : List Char} {c : Char}
    (h : readLowSurrogate high s = .ok (c, rest)) : rest.length ≤ s.length := by
  unfold readLowSurrogate at h
  split at h
  · cases h
  · next word =>
    split at h
    · cases h
    · next quad =>
      split at h
      · obtain ⟨_, rfl⟩ := Prod.mk.inj (Except.ok.inj h)
        exact Nat.le_trans (readHexQuad_length_le quad) (afterWord_length_le word)
      · cases h

theorem readEscape_length_lt {s rest : List Char} {c : Char}
    (h : readEscape s = .ok (c, rest)) : rest.length < s.length := by
  unfold readEscape at h
  split at h
  · cases h
  · next c s =>
    refine Nat.lt_succ_of_le ?_
    split at h
    · unfold readNumericEscape at h
      split at h
      · cases h
      · next quad =>
        have le := readHexQuad_length_le quad
        split at h
        · cases h
        · split at h
          · exact Nat.le_trans (readLowSurrogate_length_le h) le
          · cases h; exact le
    · split at h
      · cases h; exact Nat.le_refl _
      · cases h

theorem skipEscape_length_lt {s rest : List Char}
    (h : skipEscape s = .ok rest) : rest.length < s.length := by
  unfold skipEscape at h
  split at h
  · cases h
  · refine Nat.lt_succ_of_le ?_
    split at h
    · obtain ⟨⟨n, rest⟩, quad, eq⟩ := map_eq_ok_iff.1 h
      cases eq
      exact readHexQuad_length_le quad
    · split at h
      · cases h; exact Nat.le_refl _
      · cases h

/-! ## Reading -/

/-- Reads the characters of a string up to its closing quote, from behind the opening one. -/
def readChars (s : List Char) : Except Fault (List Char × List Char) :=
  match s with
  | [] => .error .ended
  | c :: s =>
    if c = '"' then .ok ([], s)
    else if c = '\\' then
      match h : readEscape s with
      | .error fault => .error fault
      | .ok (char, rest) =>
        have : rest.length < s.length := readEscape_length_lt h
        (readChars rest).map fun (chars, rest) => (char :: chars, rest)
    else if c < ' ' then .error .malformed
    else (readChars s).map fun (chars, rest) => (c :: chars, rest)
termination_by s.length

/-- Skips a string up to its closing quote, from behind the opening one. -/
def skipChars (s : List Char) : Except Fault (List Char) :=
  match s with
  | [] => .error .ended
  | c :: s =>
    if c = '"' then .ok s
    else if c = '\\' then
      match h : skipEscape s with
      | .error fault => .error fault
      | .ok rest =>
        have : rest.length < s.length := skipEscape_length_lt h
        skipChars rest
    else if c < ' ' then .error .malformed
    else skipChars s
termination_by s.length

/-- Reading goes on behind each character of the string. -/
theorem readChars_cons (c : Char) (s : List Char) :
    readChars (c :: s) =
      if c = '"' then .ok ([], s)
      else if c = '\\' then do
        let (char, s) ← readEscape s
        (readChars s).map fun (chars, rest) => (char :: chars, rest)
      else if c < ' ' then .error .malformed
      else (readChars s).map fun (chars, rest) => (c :: chars, rest) := by
  rw [readChars]
  congr 2
  split <;> simp [*, bind, Except.bind]

/-- Skipping goes on behind each character of the string. -/
theorem skipChars_cons (c : Char) (s : List Char) :
    skipChars (c :: s) =
      if c = '"' then .ok s
      else if c = '\\' then skipEscape s >>= skipChars
      else if c < ' ' then .error .malformed
      else skipChars s := by
  rw [skipChars]
  congr 2
  split <;> simp [*, bind, Except.bind]

theorem readChars_length_lt {s rest chars : List Char} (h : readChars s = .ok (chars, rest)) :
    rest.length < s.length := by
  fun_induction readChars s generalizing chars rest with
  | case1 => cases h
  | case2 => cases h; exact Nat.lt_succ_self _
  | case3 => cases h
  | case4 _ _ _ _ _ lt ih =>
    obtain ⟨⟨cs, r⟩, read, eq⟩ := map_eq_ok_iff.1 h
    cases eq
    have := ih read
    simp only [List.length_cons]; omega
  | case5 => cases h
  | case6 _ _ _ _ _ ih =>
    obtain ⟨⟨cs, r⟩, read, eq⟩ := map_eq_ok_iff.1 h
    cases eq
    exact Nat.lt_succ_of_lt (ih read)

theorem skipChars_length_lt {s rest : List Char} (h : skipChars s = .ok rest) :
    rest.length < s.length := by
  fun_induction skipChars s with
  | case1 => cases h
  | case2 => cases h; exact Nat.lt_succ_self _
  | case3 => cases h
  | case4 _ _ _ _ lt ih =>
    have := ih h
    simp only [List.length_cons]; omega
  | case5 => cases h
  | case6 _ _ _ _ _ ih => exact Nat.lt_succ_of_lt (ih h)

/-- Reads a string from behind its opening quote. -/
def readString (s : List Char) : Except Fault (String × List Char) :=
  (readChars s).map fun (chars, rest) => (String.ofList chars, rest)

theorem readString_length_lt {s rest : List Char} {text : String}
    (h : readString s = .ok (text, rest)) : rest.length < s.length := by
  obtain ⟨⟨chars, r⟩, read, eq⟩ := map_eq_ok_iff.1 h
  cases eq
  exact readChars_length_lt read

end Json

end StackProfiler
