import StackProfiler.Json.Fault
/-!
# Readers

A reader takes a value from the front of a text and gives the rest back. The rest is always shorter
than the text, so a loop over readers ends. What is common to all readers is here: white space, fixed
words, and the commas and brackets of arrays and objects.
-/

namespace StackProfiler

namespace Json

/-- A value taken from the front of a text, and what follows it. -/
abbrev Read (α : Type) := Except Fault (α × List Char)

/-- Two steps in a row succeed exactly when both do. -/
theorem bind_eq_ok_iff {α β : Type} {x : Except Fault α} {next : α → Except Fault β} {b : β} :
    x >>= next = .ok b ↔ ∃ a, x = .ok a ∧ next a = .ok b := by
  cases x <;> simp [bind, Except.bind]

/-- A converted result comes from a result. -/
theorem map_eq_ok_iff {α β : Type} {x : Except Fault α} {f : α → β} {b : β} :
    x.map f = .ok b ↔ ∃ a, x = .ok a ∧ f a = b := by
  cases x <;> simp [Except.map]

/-- Something that reads values of a type and always goes forward. -/
structure Reader (α : Type) where
  run : List Char → Read α
  shorter : ∀ {s a rest}, run s = .ok (a, rest) → rest.length < s.length

namespace Reader

variable {α β : Type}

/-- Reads a value and converts it. -/
def map (f : α → β) (reader : Reader α) : Reader β where
  run s := (reader.run s).map fun (a, rest) => (f a, rest)
  shorter h := by
    obtain ⟨⟨a, rest⟩, read, eq⟩ := map_eq_ok_iff.1 h
    cases eq
    exact reader.shorter read

end Reader

/-! ## White space and words -/

/-- The four characters that may stand between any two parts of a text. -/
def isBlank (c : Char) : Bool :=
  c = ' ' || c = '\t' || c = '\n' || c = '\r'

/-- The text from its first character on that is not blank. -/
def skipBlank (s : List Char) : List Char :=
  s.dropWhile isBlank

theorem skipBlank_length_le (s : List Char) : (skipBlank s).length ≤ s.length :=
  (List.dropWhile_sublist isBlank).length_le

/-- What follows the given word at the front of a text. -/
def afterWord : List Char → List Char → Except Fault (List Char)
  | [], s => .ok s
  | _ :: _, [] => .error .ended
  | w :: word, c :: s => if w = c then afterWord word s else .error .malformed

theorem afterWord_length_le {word s rest : List Char} (h : afterWord word s = .ok rest) :
    rest.length ≤ s.length := by
  fun_induction afterWord word s with
  | case1 => cases h; exact Nat.le_refl _
  | case2 => cases h
  | case3 _ _ _ ih => exact Nat.le_succ_of_le (ih h)
  | case4 => cases h

/-- The whole text is one value, with white space around it. -/
def Reader.whole {α : Type} (reader : Reader α) (s : List Char) : Except Fault α := do
  let (a, rest) ← reader.run s
  if skipBlank rest = [] then return a else throw .malformed

/-! ## Arrays and objects -/

/-- What comes at a place where an array or object may end. -/
inductive Turn
  | close (rest : List Char)
  /-- One more part, which begins in `rest`. -/
  | next (rest : List Char)

/-- The text after the turn. -/
def Turn.rest : Turn → List Char
  | .close rest | .next rest => rest

/-- Looks for the next element of an array; `fresh` tells that there was none yet. Elements are parted by
commas, and no comma stands before the closing bracket. -/
def arrayTurn (fresh : Bool) (s : List Char) : Except Fault Turn :=
  match skipBlank s with
  | [] => .error .ended
  | ']' :: rest => .ok (.close rest)
  | c :: rest =>
    if fresh then .ok (.next (c :: rest))
    else if c = ',' then
      match skipBlank rest with
      | [] => .error .ended
      | ']' :: _ => .error .malformed
      | element => .ok (.next element)
    else .error .malformed

/-- Looks for the next member of an object; `fresh` tells that there was none yet. The turn is behind the
quote that opens the key. -/
def objectTurn (fresh : Bool) (s : List Char) : Except Fault Turn :=
  match skipBlank s with
  | [] => .error .ended
  | '}' :: rest => .ok (.close rest)
  | c :: rest =>
    if fresh then
      if c = '"' then .ok (.next rest) else .error .malformed
    else if c = ',' then
      match skipBlank rest with
      | [] => .error .ended
      | '"' :: key => .ok (.next key)
      | _ => .error .malformed
    else .error .malformed

/-- What follows the colon between a key and its value. -/
def afterColon (s : List Char) : Except Fault (List Char) :=
  match skipBlank s with
  | [] => .error .ended
  | ':' :: rest => .ok rest
  | _ => .error .malformed

theorem arrayTurn_length_le {fresh : Bool} {s : List Char} {turn : Turn}
    (h : arrayTurn fresh s = .ok turn) : turn.rest.length ≤ s.length := by
  have le := skipBlank_length_le s
  unfold arrayTurn at h
  split at h
  · cases h
  · next rest eq => cases h; simp [Turn.rest, eq] at le ⊢; omega
  · next c rest _ eq =>
    have le' := skipBlank_length_le rest
    simp only [eq, List.length_cons] at le
    split at h
    · cases h; simpa [Turn.rest] using le
    · split at h
      · split at h
        · cases h
        · cases h
        · cases h; simp only [Turn.rest]; omega
      · cases h

/-- A closing bracket is itself taken. -/
theorem arrayTurn_close_length_lt {fresh : Bool} {s rest : List Char}
    (h : arrayTurn fresh s = .ok (.close rest)) : rest.length < s.length := by
  have le := skipBlank_length_le s
  unfold arrayTurn at h
  split at h
  · cases h
  · next rest eq => cases h; simp [eq] at le; omega
  · split at h
    · cases h
    · split at h
      · split at h <;> cases h
      · cases h

theorem objectTurn_length_lt {fresh : Bool} {s : List Char} {turn : Turn}
    (h : objectTurn fresh s = .ok turn) : turn.rest.length < s.length := by
  have le := skipBlank_length_le s
  unfold objectTurn at h
  split at h
  · cases h
  · next rest eq => cases h; simp [Turn.rest, eq] at le ⊢; omega
  · next c rest _ eq =>
    have le' := skipBlank_length_le rest
    simp only [eq, List.length_cons] at le
    split at h
    · split at h
      · cases h; simp only [Turn.rest]; omega
      · cases h
    · split at h
      · split at h
        · cases h
        · next eq' => cases h; simp only [eq', List.length_cons] at le'; simp only [Turn.rest]; omega
        · cases h
      · cases h

theorem afterColon_length_lt {s rest : List Char} (h : afterColon s = .ok rest) :
    rest.length < s.length := by
  have le := skipBlank_length_le s
  unfold afterColon at h
  split at h
  · cases h
  · next eq => cases h; simp [eq] at le; omega
  · cases h

end Json

end StackProfiler
