import StackProfiler.Json.Number
import StackProfiler.Json.Strings
/-!
# Values of a wanted type

Readers of booleans, strings, integers of a range, lists, values that may be null, and names out of a
list. Where something else stands the reader says what it is and what was wanted; an array or an object
is named as soon as it opens.
-/

namespace StackProfiler

namespace Json

/-! ## What stands instead -/

/-- What begins a text that does not hold the wanted value; the text is not blank in front. -/
def foundAt (s : List Char) : Except Fault Found :=
  match s with
  | [] => .error .ended
  | c :: rest =>
    if c = 'n' then (afterWord ['u', 'l', 'l'] rest).map fun _ => .null
    else if c = 't' then (afterWord ['r', 'u', 'e'] rest).map fun _ => .boolean true
    else if c = 'f' then (afterWord ['a', 'l', 's', 'e'] rest).map fun _ => .boolean false
    else if c = '"' then (readString rest).map fun (text, _) => .str text
    else if c = '[' then .ok .sequence
    else if c = '{' then .ok .map
    else if c = '-' || c.isDigit then (readNumber s).map fun (number, _) => number.found
    else .error .malformed

/-- The fault that `expected` was wanted where `s` begins. -/
def wrongType (expected : String) (s : List Char) : Fault :=
  match foundAt s with
  | .error fault => fault
  | .ok found => .mismatch (.wrongType found expected)

/-! ## Simple values -/

/-- Reads a boolean. -/
def readBoolean (s : List Char) : Except Fault (Bool × List Char) :=
  match skipBlank s with
  | [] => .error .ended
  | c :: rest =>
    if c = 't' then (afterWord ['r', 'u', 'e'] rest).map fun rest => (true, rest)
    else if c = 'f' then (afterWord ['a', 'l', 's', 'e'] rest).map fun rest => (false, rest)
    else .error (wrongType "a boolean" (c :: rest))

/-- Reads a string. -/
def readText (s : List Char) : Except Fault (String × List Char) :=
  match skipBlank s with
  | [] => .error .ended
  | c :: rest =>
    if c = '"' then readString rest else .error (wrongType "a string" (c :: rest))

/-- Reads an integer between two bounds, both included. -/
def readInteger (expected : String) (least greatest : Int) (s : List Char) :
    Except Fault (Int × List Char) :=
  match skipBlank s with
  | [] => .error .ended
  | c :: rest =>
    if c = '-' || c.isDigit then
      match readNumber (c :: rest) with
      | .error fault => .error fault
      | .ok (.float bits, _) => .error (.mismatch (.wrongType (.float bits) expected))
      | .ok (.integer n, rest) =>
        if least ≤ n && n ≤ greatest then .ok (n, rest)
        else .error (.mismatch (.outOfRange n expected))
    else .error (wrongType expected (c :: rest))

/-- Reads the null that stands for no value. -/
def readNull (s : List Char) : Except Fault (Unit × List Char) :=
  match skipBlank s with
  | [] => .error .ended
  | c :: rest =>
    if c = 'n' then (afterWord ['u', 'l', 'l'] rest).map fun rest => ((), rest)
    else .error (wrongType "unit" (c :: rest))

/-- Reads an integer of 128 bits. Only its digits are read: nothing but a digit may begin it, and an
integer that is too large is not an integer. -/
def readWideInteger (s : List Char) : Except Fault (BitVec 128 × List Char) :=
  match skipBlank s with
  | [] => .error .ended
  | c :: rest =>
    if c = '0' then if digitNext rest then .error .malformed else .ok (0, rest)
    else if c.isDigit then
      let n := ((c :: rest).takeWhile Char.isDigit).foldl (fun n c => n * 10 + digitValue c) 0
      if n < 340_282_366_920_938_463_463_374_607_431_768_211_456 then
        .ok (BitVec.ofNat 128 n, rest.dropWhile Char.isDigit)
      else .error .malformed
    else .error .malformed

theorem readBoolean_length_lt {s rest : List Char} {b : Bool}
    (h : readBoolean s = .ok (b, rest)) : rest.length < s.length := by
  have le := skipBlank_length_le s
  unfold readBoolean at h
  split at h
  · cases h
  · next c t eq =>
    rw [eq, List.length_cons] at le
    split at h
    · obtain ⟨r, word, eq⟩ := map_eq_ok_iff.1 h
      cases eq
      have := afterWord_length_le word
      omega
    · split at h
      · obtain ⟨r, word, eq⟩ := map_eq_ok_iff.1 h
        cases eq
        have := afterWord_length_le word
        omega
      · cases h

theorem readText_length_lt {s rest : List Char} {text : String}
    (h : readText s = .ok (text, rest)) : rest.length < s.length := by
  have le := skipBlank_length_le s
  unfold readText at h
  split at h
  · cases h
  · next c t eq =>
    rw [eq, List.length_cons] at le
    split at h
    · have := readString_length_lt h
      omega
    · cases h

theorem readInteger_length_lt {expected : String} {least greatest : Int} {s rest : List Char} {n : Int}
    (h : readInteger expected least greatest s = .ok (n, rest)) : rest.length < s.length := by
  have le := skipBlank_length_le s
  unfold readInteger at h
  split at h
  · cases h
  · next c t eq =>
    rw [eq] at le
    split at h
    · split at h
      · cases h
      · cases h
      · next number =>
        split at h
        · cases h
          exact Nat.lt_of_lt_of_le (readNumber_length_lt number) le
        · cases h
    · cases h

theorem readNull_length_lt {s rest : List Char} {u : Unit}
    (h : readNull s = .ok (u, rest)) : rest.length < s.length := by
  have le := skipBlank_length_le s
  unfold readNull at h
  split at h
  · cases h
  · next c t eq =>
    rw [eq, List.length_cons] at le
    split at h
    · obtain ⟨r, word, eq⟩ := map_eq_ok_iff.1 h
      cases eq
      have := afterWord_length_le word
      omega
    · cases h

theorem readWideInteger_length_lt {s rest : List Char} {n : BitVec 128}
    (h : readWideInteger s = .ok (n, rest)) : rest.length < s.length := by
  have le := skipBlank_length_le s
  unfold readWideInteger at h
  split at h
  · cases h
  · next c t eq =>
    rw [eq, List.length_cons] at le
    split at h
    · split at h
      · cases h
      · cases h; omega
    · split at h
      · simp only at h
        split at h
        · cases h
          have := dropDigits_length_le t
          omega
        · cases h
      · cases h

namespace Reader

/-- Reads a boolean. -/
def boolean : Reader Bool := ⟨readBoolean, readBoolean_length_lt⟩

/-- Reads a string. -/
def string : Reader String := ⟨readText, readText_length_lt⟩

/-- Reads an integer between two bounds, both included. -/
def integer (expected : String) (least greatest : Int) : Reader Int :=
  ⟨readInteger expected least greatest, readInteger_length_lt⟩

/-- Reads a word of 32 bits. -/
def word32 : Reader UInt32 :=
  (integer "u32" 0 4_294_967_295).map fun n => UInt32.ofNat n.toNat

/-- Reads a word of 64 bits. -/
def word64 : Reader UInt64 :=
  (integer "u64" 0 18_446_744_073_709_551_615).map fun n => UInt64.ofNat n.toNat

/-- Reads a count or position, which is a word of 64 bits. -/
def count : Reader UInt64 :=
  (integer "usize" 0 18_446_744_073_709_551_615).map fun n => UInt64.ofNat n.toNat

/-- Reads a signed word of 64 bits. -/
def signed64 : Reader Int64 :=
  (integer "i64" (-9_223_372_036_854_775_808) 9_223_372_036_854_775_807).map Int64.ofInt

/-- Reads a word of 128 bits. -/
def word128 : Reader (BitVec 128) := ⟨readWideInteger, readWideInteger_length_lt⟩

end Reader

/-! ## Values that may be null -/

/-- Reads null as none, and all else with the reader. -/
def readOption {α : Type} (reader : Reader α) (s : List Char) :
    Except Fault (Option α × List Char) :=
  match skipBlank s with
  | [] => .error .ended
  | c :: rest =>
    if c = 'n' then (afterWord ['u', 'l', 'l'] rest).map fun rest => (none, rest)
    else (reader.run (c :: rest)).map fun (a, rest) => (some a, rest)

theorem readOption_length_lt {α : Type} {reader : Reader α} {s rest : List Char} {a : Option α}
    (h : readOption reader s = .ok (a, rest)) : rest.length < s.length := by
  have le := skipBlank_length_le s
  unfold readOption at h
  split at h
  · cases h
  · next c t eq =>
    rw [eq] at le
    split at h
    · obtain ⟨r, word, eq⟩ := map_eq_ok_iff.1 h
      cases eq
      have := afterWord_length_le word
      simp only [List.length_cons] at le
      omega
    · obtain ⟨⟨a, r⟩, read, eq⟩ := map_eq_ok_iff.1 h
      cases eq
      exact Nat.lt_of_lt_of_le (reader.shorter read) le

/-- Reads a value that may be null. -/
def Reader.option {α : Type} (reader : Reader α) : Reader (Option α) :=
  ⟨readOption reader, readOption_length_lt⟩

/-! ## Lists -/

/-- Reads the elements of an array up to its closing bracket; `fresh` tells that there was none yet. -/
def readElements {α : Type} (reader : Reader α) (fresh : Bool) (s : List Char) :
    Except Fault (List α × List Char) :=
  match turn : arrayTurn fresh s with
  | .error fault => .error fault
  | .ok (.close rest) => .ok ([], rest)
  | .ok (.next element) =>
    match read : reader.run element with
    | .error fault => .error fault
    | .ok (a, rest) =>
      have : rest.length < s.length :=
        Nat.lt_of_lt_of_le (reader.shorter read) (arrayTurn_length_le turn)
      (readElements reader false rest).map fun (as, rest) => (a :: as, rest)
termination_by s.length

/-- Reading goes on behind each element. -/
theorem readElements_eq {α : Type} (reader : Reader α) (fresh : Bool) (s : List Char) :
    readElements reader fresh s = (do
      match ← arrayTurn fresh s with
      | .close rest => return ([], rest)
      | .next element =>
        let (a, rest) ← reader.run element
        (readElements reader false rest).map fun (as, rest) => (a :: as, rest)) := by
  rw [readElements]
  split
  · simp [*, bind, Except.bind]
  · simp [*, bind, Except.bind, pure, Except.pure]
  · simp only [*, bind, Except.bind]
    split <;> simp [*]

/-- Reads an array. -/
def readList {α : Type} (reader : Reader α) (s : List Char) : Except Fault (List α × List Char) :=
  match skipBlank s with
  | [] => .error .ended
  | c :: rest =>
    if c = '[' then readElements reader true rest
    else .error (wrongType "a sequence" (c :: rest))

theorem readElements_length_lt {α : Type} {reader : Reader α} {fresh : Bool} {s rest : List Char}
    {as : List α} (h : readElements reader fresh s = .ok (as, rest)) : rest.length < s.length := by
  fun_induction readElements reader fresh s generalizing as rest with
  | case1 => cases h
  | case2 _ _ _ turn => cases h; exact arrayTurn_close_length_lt turn
  | case3 => cases h
  | case4 _ _ _ _ _ _ _ lt ih =>
    obtain ⟨⟨bs, r⟩, read, eq⟩ := map_eq_ok_iff.1 h
    cases eq
    exact Nat.lt_trans (ih read) lt

theorem readList_length_lt {α : Type} {reader : Reader α} {s rest : List Char} {as : List α}
    (h : readList reader s = .ok (as, rest)) : rest.length < s.length := by
  have le := skipBlank_length_le s
  unfold readList at h
  split at h
  · cases h
  · next c t eq =>
    rw [eq, List.length_cons] at le
    split at h
    · have := readElements_length_lt h
      omega
    · cases h

/-- Reads a list of values. -/
def Reader.list {α : Type} (reader : Reader α) : Reader (List α) :=
  ⟨readList reader, readList_length_lt⟩

/-! ## Names out of a list -/

/-- The value of a name. -/
def lookUpVariant {α : Type} (variants : List (String × α)) (name : String) : Except Fault α :=
  match variants.lookup name with
  | some a => .ok a
  | none => .error (.mismatch (.unknownVariant name (variants.map Prod.fst)))

/-- Reads one of several names: as a string, or as an object whose only member has the name for its key
and null for its value. As in any other object a key that is not a string makes the text malformed: a
number or a null in its place is no mismatch. -/
def readVariant {α : Type} (variants : List (String × α)) (s : List Char) :
    Except Fault (α × List Char) := do
  match skipBlank s with
  | [] => throw .ended
  | c :: rest =>
    if c = '"' then
      let (name, rest) ← readString rest
      return (← lookUpVariant variants name, rest)
    else if c = '{' then
      match ← objectTurn true rest with
      | .close _ => throw .malformed
      | .next key =>
        let (name, rest) ← readString key
        let a ← lookUpVariant variants name
        let (_, rest) ← readNull (← afterColon rest)
        match skipBlank rest with
        | [] => throw .ended
        | '}' :: rest => return (a, rest)
        | _ => throw .malformed
    else throw .malformed

theorem readVariant_length_lt {α : Type} {variants : List (String × α)} {s rest : List Char} {a : α}
    (h : readVariant variants s = .ok (a, rest)) : rest.length < s.length := by
  have le := skipBlank_length_le s
  unfold readVariant at h
  split at h
  · cases h
  · next c t eq =>
    rw [eq, List.length_cons] at le
    split at h
    · obtain ⟨⟨name, r⟩, read, h⟩ := bind_eq_ok_iff.1 h
      obtain ⟨b, _, h⟩ := bind_eq_ok_iff.1 h
      cases h
      have := readString_length_lt read
      omega
    · split at h
      · obtain ⟨turn, opened, h⟩ := bind_eq_ok_iff.1 h
        have lt := objectTurn_length_lt opened
        split at h
        · cases h
        · next key =>
          obtain ⟨⟨name, r⟩, read, h⟩ := bind_eq_ok_iff.1 h
          obtain ⟨b, _, h⟩ := bind_eq_ok_iff.1 h
          obtain ⟨r', colon, h⟩ := bind_eq_ok_iff.1 h
          obtain ⟨⟨u, r''⟩, null, h⟩ := bind_eq_ok_iff.1 h
          have := readString_length_lt read
          have := afterColon_length_lt colon
          have := readNull_length_lt null
          have le' := skipBlank_length_le r''
          simp only [Turn.rest] at lt h
          split at h
          · cases h
          · next eq' =>
            cases h
            rw [eq', List.length_cons] at le'
            simp only at *
            omega
          · cases h
      · cases h

/-- Reads one of several names. -/
def Reader.variant {α : Type} (variants : List (String × α)) : Reader α :=
  ⟨readVariant variants, readVariant_length_lt⟩

end Json

end StackProfiler
