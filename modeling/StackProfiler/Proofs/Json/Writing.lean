import StackProfiler.Json.Writer
import StackProfiler.Proofs.Json.Values
/-!
# JSON — what writers write

What is written for a value spells a tree that stands for it, without white space
between its parts. That is proved writer by writer; that a reader takes the value
back from the text is then a case of its exactness (`Reader.Reads.whole_write`).
-/

namespace StackProfiler

namespace Json

variable {α : Type}

/-- **What is written for a value spells a tree that stands for it.** -/
def Writes (write : α → List Char) (form : Form α) : Prop :=
  ∀ a, ∃ tree, Spells tree (write a) ∧ form tree a

/-- **What is written is read back.** -/
theorem Reader.Reads.whole_write {reader : Reader α} {form : Form α} {write : α → List Char}
    (hreads : reader.Reads form) (hwrites : Writes write form) (a : α) :
    reader.whole (write a) = .ok a := by
  obtain ⟨tree, htree, hform⟩ := hwrites a
  have htext : IsText (write a) tree :=
    ⟨[], write a, [], by simp, blank_nil, htree, blank_nil⟩
  exact hreads.whole_eq_ok_iff.2 ⟨tree, htext, hform⟩

/-! ## Booleans and integers -/

theorem writes_switch : Writes writeBool Form.Switch
  | true => ⟨.boolean true, .yes, .boolean true⟩
  | false => ⟨.boolean false, .no, .boolean false⟩

/-- The digits of a number are not those of a greater one with a zero in front. -/
theorem toDigits_eq_of_head_zero {n : Nat} (h : (Nat.toDigits 10 n).head? = some '0') :
    Nat.toDigits 10 n = ['0'] := by
  induction n using Nat.strongRecOn with
  | ind n ih =>
    rcases Nat.lt_or_ge n 10 with hlt | hge
    · rw [Nat.toDigits_of_lt_base hlt] at h ⊢
      rw [Option.some.inj h]
    · rw [Nat.toDigits_of_base_le (by decide) hge,
        List.head?_append_of_ne_nil _ Nat.toDigits_ne_nil] at h
      have hzero := ih (n / 10) (by omega) h
      have hvalue : Nat.ofDigitChars 10 (Nat.toDigits 10 (n / 10)) 0 = n / 10 :=
        Nat.ofDigitChars_ten_toDigits
      rw [hzero] at hvalue
      have : n / 10 = 0 := hvalue.symm.trans (by decide)
      omega

theorem decimal_writeNat (n : Nat) : Decimal (writeNat n) n where
  digits := ⟨Nat.toDigits_ne_nil, fun _ => Nat.isDigit_of_mem_toDigits (by decide) (by decide)⟩
  zero_alone := toDigits_eq_of_head_zero
  value := Nat.ofDigitChars_ten_toDigits

theorem integral_writeInt (n : Int) : Integral (writeInt n) n := by
  rw [writeInt]
  split
  · next hneg =>
    obtain ⟨k, rfl⟩ := Int.eq_negSucc_of_lt_zero hneg
    exact .negative (decimal_writeNat (k + 1))
  · next hneg =>
    obtain ⟨k, rfl⟩ := Int.eq_ofNat_of_zero_le (Int.not_lt.1 hneg)
    exact .nonnegative (decimal_writeNat k)

theorem writes_natural (value : α → Nat) :
    Writes (fun a => writeNat (value a)) (Form.Natural value) := by
  intro a
  have h := decimal_writeNat (value a)
  exact ⟨.number (writeNat (value a)), .number (.unsigned h.unsignedText), .digits h⟩

theorem writes_signed : Writes (fun n => writeInt (Int64.toInt n)) Form.Signed := by
  intro n
  have h := integral_writeInt n.toInt
  exact ⟨.number (writeInt n.toInt), .number h.numberText, .digits h⟩

/-! ## Strings -/

theorem hexDigit?_digitChar : ∀ d < 16, hexDigit? d.digitChar = some d := by decide

/-- A control character by its number. -/
theorem hexQuad_of_lt {n : Nat} (h : n < 0x20) :
    HexQuad ['0', '0', (n / 16).digitChar, (n % 16).digitChar] n :=
  ⟨_, _, _, _, 0, 0, n / 16, n % 16, rfl, rfl, rfl, hexDigit?_digitChar _ (by omega),
    hexDigit?_digitChar _ (by omega), by omega⟩

/-- What is written for a character says it. -/
theorem saysChar_escapeChar (c : Char) : SaysChar (escapeChar c) c := by
  rw [escapeChar]
  split
  · next h => subst h; exact .letter rfl
  split
  · next h => subst h; exact .letter rfl
  split
  · next h => subst h; exact .letter rfl
  split
  · next h => subst h; exact .letter rfl
  split
  · next h => subst h; exact .letter rfl
  split
  · next h => subst h; exact .letter rfl
  split
  · next h => subst h; exact .letter rfl
  split
  · next h =>
    have hcode := SaysChar.code (hexQuad_of_lt h) (.inl (by omega))
    rwa [Char.ofNat_toNat] at hcode
  · next hquote hbackslash _ _ _ _ _ h => exact .plain h hquote hbackslash

theorem says_flatMap_escapeChar (s : String) : Says (s.toList.flatMap escapeChar) s := by
  rw [Says]
  induction s.toList with
  | nil => exact .nil
  | cons c chars ih =>
    rw [List.flatMap_cons]
    exact .cons (saysChar_escapeChar c) ih

/-- A text without escapes says itself. -/
theorem says_toList {s : String} (h : s.toList.flatMap escapeChar = s.toList) :
    Says s.toList s := by
  have hsays := says_flatMap_escapeChar s
  rwa [h] at hsays

theorem writeString_eq (s : String) :
    writeString s = '"' :: (s.toList.flatMap escapeChar ++ ['"']) := rfl

theorem spells_writeString (s : String) :
    Spells (.string (s.toList.flatMap escapeChar)) (writeString s) := by
  rw [writeString_eq]
  exact .string (says_flatMap_escapeChar s).stringText

theorem writes_text : Writes writeString Form.Text := fun s =>
  ⟨_, spells_writeString s, .string (says_flatMap_escapeChar s)⟩

/-- A value written by its name. -/
theorem writes_named (name : α → String) :
    Writes (fun a => writeString (name a)) (Form.Named name) := fun a =>
  ⟨_, spells_writeString (name a), .string (says_flatMap_escapeChar (name a))⟩

/-! ## Arrays and objects -/

/-- Behind the first text each text follows a comma. -/
theorem joinCommas_cons (text : List Char) (texts : List (List Char)) :
    joinCommas (text :: texts) = text ++ texts.flatMap (',' :: ·) := by
  induction texts generalizing text with
  | nil => simp [joinCommas]
  | cons text' texts ih =>
    rw [joinCommas.eq_3 _ _ (List.cons_ne_nil _ _), ih, List.flatMap_cons, List.cons_append]

theorem lead_comma : Lead false [','] := .later blank_nil blank_nil

theorem lead_nil : Lead true [] := .first blank_nil

theorem spellsElements_flatMap {trees : List Tree} {texts : List (List Char)}
    (h : List.Forall₂ Spells trees texts) :
    SpellsElements false trees (texts.flatMap (',' :: ·) ++ [']']) := by
  induction h with
  | nil => exact .close blank_nil
  | cons htree _ ih =>
    have h := SpellsElements.next lead_comma htree ih
    rw [List.flatMap_cons, List.append_assoc]
    exact h

/-- Texts of trees with commas between them are those of the elements of an array. -/
theorem spellsElements_joinCommas {trees : List Tree} {texts : List (List Char)}
    (h : List.Forall₂ Spells trees texts) :
    SpellsElements true trees (joinCommas texts ++ [']']) := by
  cases h with
  | nil => exact .close blank_nil
  | cons htree hrest =>
    have h := SpellsElements.next lead_nil htree (spellsElements_flatMap hrest)
    rw [joinCommas_cons, List.append_assoc]
    exact h

/-- The trees of several values. -/
theorem Writes.exists_trees {write : α → List Char} {form : Form α} (h : Writes write form)
    (as : List α) :
    ∃ trees, List.Forall₂ Spells trees (as.map write) ∧ List.Forall₂ form trees as := by
  induction as with
  | nil => exact ⟨[], .nil, .nil⟩
  | cons a as ih =>
    obtain ⟨tree, hspells, hform⟩ := h a
    obtain ⟨trees, hspellsAll, hforms⟩ := ih
    exact ⟨tree :: trees, .cons hspells hspellsAll, .cons hform hforms⟩

theorem Writes.list {write : α → List Char} {form : Form α} (h : Writes write form) :
    Writes (writeList write) (Form.ListOf form) := by
  intro as
  obtain ⟨trees, hspells, hforms⟩ := h.exists_trees as
  exact ⟨.array trees, .array (spellsElements_joinCommas hspells), .array hforms⟩

/-- A member that is written: its name, and a text of its tree. -/
abbrev MemberText (member : String × List Char) (part : String × Tree) : Prop :=
  member.1 = part.1 ∧ Spells part.2 member.2

/-- The members of an object as a writer writes them: the raw text of each key is the
escaped name. -/
def escapedMembers (given : List (String × Tree)) : List (List Char × Tree) :=
  given.map fun part => (part.1.toList.flatMap escapeChar, part.2)

theorem spellsMembers_cons {fresh : Bool} {lead value r : List Char} {part : String × Tree}
    {given : List (String × Tree)} (hlead : Lead fresh lead) (hvalue : Spells part.2 value)
    (hr : SpellsMembers false (escapedMembers given) r) :
    SpellsMembers fresh (escapedMembers (part :: given))
      (lead ++ ((writeString part.1 ++ ':' :: value) ++ r)) := by
  have h := SpellsMembers.next hlead (says_flatMap_escapeChar part.1).stringText blank_nil
    blank_nil hvalue hr
  simpa [writeString_eq, escapedMembers] using h

theorem spellsMembers_flatMap {members : List (String × List Char)}
    {given : List (String × Tree)} (h : List.Forall₂ MemberText members given) :
    SpellsMembers false (escapedMembers given)
      ((members.map fun (key, value) => writeString key ++ ':' :: value).flatMap (',' :: ·) ++
        ['\x7d']) := by
  induction h with
  | nil => exact .close blank_nil
  | @cons member part _ _ hmember _ ih =>
    obtain ⟨key, value⟩ := member
    obtain ⟨rfl, hvalue⟩ := hmember
    have h := spellsMembers_cons lead_comma hvalue ih
    rw [List.map_cons, List.flatMap_cons, List.append_assoc]
    exact h

/-- **An object that is written gives its members** under their names, in order. -/
theorem exists_tree_of_writeObject {members : List (String × List Char)}
    {given : List (String × Tree)} (h : List.Forall₂ MemberText members given)
    (names : List String) : ∃ tree, Spells tree (writeObject members) ∧ Gives names tree given := by
  refine ⟨.object (escapedMembers given), ?_, .object ?_⟩
  · rw [writeObject, List.cons_append]
    refine .object ?_
    cases h with
    | nil => exact .close blank_nil
    | @cons member part _ _ hmember hrest =>
      obtain ⟨key, value⟩ := member
      obtain ⟨rfl, hvalue⟩ := hmember
      have h := spellsMembers_cons lead_nil hvalue (spellsMembers_flatMap hrest)
      rw [List.map_cons, joinCommas_cons]
      simpa only [List.append_assoc, List.nil_append] using h
  · rw [escapedMembers, List.forall₂_map_left_iff]
    exact List.forall₂_same.2 fun part _ => ⟨says_flatMap_escapeChar part.1, rfl⟩

/-- A member that is written only where its value is there. -/
theorem Writes.exists_optional {write : α → List Char} {form : Form α} (h : Writes write form)
    (name : String) (a? : Option α) :
    ∃ given, List.Forall₂ MemberText (a?.map fun a => (name, write a)).toList given ∧
      (∀ part ∈ given, part.1 = name) ∧ Optional name (Form.OrNull form) none given a? := by
  cases a? with
  | none => exact ⟨[], .nil, by simp, .inr ⟨rfl, rfl⟩⟩
  | some a =>
    obtain ⟨tree, htree, hform⟩ := h a
    exact ⟨[(name, tree)], .cons ⟨rfl, htree⟩ .nil, by simp,
      .inl ⟨tree, under_cons_self name tree [], .value hform⟩⟩

end Json

end StackProfiler
