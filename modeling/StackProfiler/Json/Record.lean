import StackProfiler.Json.Skip
import StackProfiler.Json.Value
/-!
# Records

A record is given as an object, whose members may come in any order and among unknown ones, or as an
array of the fields in the order in which they are declared. A field of the same name is given at most
once. A field that is not given takes its default, if it has one; in an array only fields at the end can be
left out.
-/

namespace StackProfiler

namespace Json

/-- A field of a record. -/
structure Field where
  name : String
  type : Type
  reader : Reader type
  /-- The value of the field where it is not given; none if it has to be given. -/
  absent : Option type

/-- A field that has to be given. -/
def Field.required (name : String) {type : Type} (reader : Reader type) : Field :=
  ⟨name, type, reader, none⟩

/-- A field that may be left out. -/
def Field.optional (name : String) {type : Type} (reader : Reader type) (absent : type) : Field :=
  ⟨name, type, reader, some absent⟩

/-- A value for each field. -/
def Values : List Field → Type
  | [] => Unit
  | field :: fields => field.type × Values fields

/-- What has been given for each field. -/
def Slots : List Field → Type
  | [] => Unit
  | field :: fields => Option field.type × Slots fields

/-- A kind of record: its fields, and what their values make. -/
structure Shape (α : Type) where
  name : String
  fields : List Field
  build : Values fields → α

namespace Slots

/-- Nothing has been given yet. -/
def empty : (fields : List Field) → Slots fields
  | [] => ()
  | _ :: fields => (none, empty fields)

/-- The values of all fields, or the first field that has none. -/
def values : (fields : List Field) → Slots fields → Except Field (Values fields)
  | [], _ => .ok ()
  | field :: fields, (given, slots) =>
    match given.or field.absent with
    | none => .error field
    | some value => (values fields slots).map fun values => (value, values)

/-- Reads the value of the field called `key`, from behind the key; none if there is no such field. -/
def readField? : (fields : List Field) → Slots fields → String → List Char →
    Option (Except Fault (Slots fields × List Char))
  | [], _, _, _ => none
  | field :: fields, (given, slots), key, s =>
    if field.name = key then
      some <| match given with
        | some _ => .error (.mismatch (.duplicateField key))
        | none =>
          match afterColon s with
          | .error fault => .error fault
          | .ok s => (field.reader.run s).map fun (value, rest) => ((some value, slots), rest)
    else
      (readField? fields slots key s).map fun read =>
        read.map fun (slots, rest) => ((given, slots), rest)

theorem readField?_length_lt {fields : List Field} {slots slots' : Slots fields} {key : String}
    {s rest : List Char} (h : readField? fields slots key s = some (.ok (slots', rest))) :
    rest.length < s.length := by
  induction fields with
  | nil => cases h
  | cons field fields ih =>
    obtain ⟨given, slots⟩ := slots
    simp only [readField?] at h
    split at h
    · cases given with
      | some _ => cases h
      | none =>
        simp only [Option.some.injEq] at h
        split at h
        · cases h
        · next colon =>
          obtain ⟨⟨value, r⟩, read, eq⟩ := map_eq_ok_iff.1 h
          cases eq
          exact Nat.lt_trans (field.reader.shorter read) (afterColon_length_lt colon)
    · obtain ⟨read, eq, h⟩ := Option.map_eq_some_iff.1 h
      obtain ⟨⟨slots'', r⟩, ok, eq'⟩ := map_eq_ok_iff.1 h
      cases eq'
      exact ih (ok ▸ eq)

/-- Reads the value that belongs to a key, from behind the key; that of an unknown key is skipped. -/
def readMember (fields : List Field) (slots : Slots fields) (key : String) (s : List Char) :
    Except Fault (Slots fields × List Char) :=
  match readField? fields slots key s with
  | some read => read
  | none =>
    match afterColon s with
    | .error fault => .error fault
    | .ok s => (skipValue s).map fun rest => (slots, rest)

theorem readMember_length_lt {fields : List Field} {slots slots' : Slots fields} {key : String}
    {s rest : List Char} (h : readMember fields slots key s = .ok (slots', rest)) :
    rest.length < s.length := by
  unfold readMember at h
  split at h
  · next eq => exact readField?_length_lt (h ▸ eq)
  · split at h
    · cases h
    · next colon =>
      obtain ⟨r, skip, eq⟩ := map_eq_ok_iff.1 h
      cases eq
      exact Nat.lt_trans (skipValue_length_lt skip) (afterColon_length_lt colon)

/-- Reads the members of an object up to its closing bracket; `fresh` tells that there was none yet. -/
def readMembers (fields : List Field) (slots : Slots fields) (fresh : Bool) (s : List Char) :
    Except Fault (Slots fields × List Char) :=
  match turn : objectTurn fresh s with
  | .error fault => .error fault
  | .ok (.close rest) => .ok (slots, rest)
  | .ok (.next key) =>
    match text : readString key with
    | .error fault => .error fault
    | .ok (name, rest) =>
      match member : readMember fields slots name rest with
      | .error fault => .error fault
      | .ok (slots, rest) =>
        have : rest.length < s.length :=
          Nat.lt_trans (readMember_length_lt member)
            (Nat.lt_trans (readString_length_lt text) (objectTurn_length_lt turn))
        readMembers fields slots false rest
termination_by s.length

/-- Reading goes on behind each member. -/
theorem readMembers_eq (fields : List Field) (slots : Slots fields) (fresh : Bool) (s : List Char) :
    readMembers fields slots fresh s = (do
      match ← objectTurn fresh s with
      | .close rest => return (slots, rest)
      | .next key =>
        let (name, rest) ← readString key
        let (slots, rest) ← readMember fields slots name rest
        readMembers fields slots false rest) := by
  rw [readMembers]
  split
  · simp [*, bind, Except.bind]
  · simp [*, bind, Except.bind, pure, Except.pure]
  · simp only [*, bind, Except.bind]
    split
    · simp [*]
    · simp only [*]
      split <;> simp [*]

theorem readMembers_length_lt {fields : List Field} {slots slots' : Slots fields} {fresh : Bool}
    {s rest : List Char} (h : readMembers fields slots fresh s = .ok (slots', rest)) :
    rest.length < s.length := by
  fun_induction readMembers fields slots fresh s with
  | case1 => cases h
  | case2 _ _ _ _ turn => cases h; exact objectTurn_length_lt turn
  | case3 => cases h
  | case4 => cases h
  | case5 _ _ _ _ _ _ _ _ _ _ _ lt ih => exact Nat.lt_trans (ih h) lt

/-- Reads the elements of an array as the fields in order, up to its closing bracket; gives also how
many there were. -/
def readElements : (fields : List Field) → (fresh : Bool) → List Char →
    Except Fault (Nat × Slots fields × List Char)
  | [], _, s =>
    match skipBlank s with
    | [] => .error .ended
    | ']' :: rest => .ok (0, (), rest)
    | _ => .error .malformed
  | field :: fields, fresh, s =>
    match arrayTurn fresh s with
    | .error fault => .error fault
    | .ok (.close rest) => .ok (0, empty (field :: fields), rest)
    | .ok (.next element) =>
      match field.reader.run element with
      | .error fault => .error fault
      | .ok (value, rest) =>
        (readElements fields false rest).map fun (count, slots, rest) =>
          (count + 1, (some value, slots), rest)

theorem readElements_length_lt {fields : List Field} {fresh : Bool} {s rest : List Char} {count : Nat}
    {slots : Slots fields} (h : readElements fields fresh s = .ok (count, slots, rest)) :
    rest.length < s.length := by
  induction fields generalizing fresh s count with
  | nil =>
    have le := skipBlank_length_le s
    simp only [readElements] at h
    split at h
    · cases h
    · next eq => cases h; rw [eq, List.length_cons] at le; omega
    · cases h
  | cons field fields ih =>
    simp only [readElements] at h
    split at h
    · cases h
    · next turn => cases h; exact arrayTurn_close_length_lt turn
    · next turn =>
      have le := arrayTurn_length_le turn
      split at h
      · cases h
      · next read =>
        obtain ⟨⟨n, slots', r⟩, rec, eq⟩ := map_eq_ok_iff.1 h
        cases eq
        exact Nat.lt_trans (ih rec) (Nat.lt_of_lt_of_le (field.reader.shorter read) le)

end Slots

/-- Reads a record in either form. -/
def readRecord {α : Type} (shape : Shape α) (s : List Char) : Except Fault (α × List Char) :=
  match skipBlank s with
  | [] => .error .ended
  | c :: rest =>
    if c = '[' then
      match Slots.readElements shape.fields true rest with
      | .error fault => .error fault
      | .ok (count, slots, rest) =>
        match slots.values with
        | .error _ => .error (.mismatch (.wrongLength count shape.name shape.fields.length))
        | .ok values => .ok (shape.build values, rest)
    else if c = '{' then
      match Slots.readMembers shape.fields (.empty shape.fields) true rest with
      | .error fault => .error fault
      | .ok (slots, rest) =>
        match slots.values with
        | .error field => .error (.mismatch (.missingField field.name))
        | .ok values => .ok (shape.build values, rest)
    else .error (wrongType s!"struct {shape.name}" (c :: rest))

theorem readRecord_length_lt {α : Type} {shape : Shape α} {s rest : List Char} {a : α}
    (h : readRecord shape s = .ok (a, rest)) : rest.length < s.length := by
  have le := skipBlank_length_le s
  unfold readRecord at h
  split at h
  · cases h
  · next c t eq =>
    rw [eq, List.length_cons] at le
    split at h
    · split at h
      · cases h
      · next read =>
        split at h
        · cases h
        · cases h
          have := Slots.readElements_length_lt read
          omega
    · split at h
      · split at h
        · cases h
        · next read =>
          split at h
          · cases h
          · cases h
            have := Slots.readMembers_length_lt read
            omega
      · cases h

/-- Reads a record in either form. -/
def Shape.reader {α : Type} (shape : Shape α) : Reader α :=
  ⟨readRecord shape, readRecord_length_lt⟩

end Json

end StackProfiler
