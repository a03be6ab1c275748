import StackProfiler.Json.Strings
/-!
# JSON — the grammar

What a JSON text is, apart from how it is read. A text spells a tree (`Spells`);
strings and numbers of the tree are as they stand in the text, so a tree keeps
what its text says and leaves out white space. White space may stand before each
part of an array or an object and around each colon, comma and bracket.

A string of the text says some characters (`Says`) if its escapes make
characters, that is, if surrogates come in pairs. Every other well-formed string
can stand in a text too.
-/

namespace StackProfiler

namespace Json

/-! ## Numbers -/

/-- At least one digit. -/
def Digits (s : List Char) : Prop := s ≠ [] ∧ ∀ c ∈ s, c.isDigit = true

/-- **The digits of a natural number**, without a zero in front of others. -/
structure Decimal (s : List Char) (n : Nat) : Prop where
  digits : Digits s
  zero_alone : s.head? = some '0' → s = ['0']
  value : Nat.ofDigitChars 10 s 0 = n

/-- What may stand behind the digits of a number: a point and digits. -/
inductive Fraction : List Char → Prop
  | absent : Fraction []
  | digits {s : List Char} : Digits s → Fraction ('.' :: s)

/-- What may stand behind that: an `e`, a sign and digits. -/
inductive Exponent : List Char → Prop
  | absent : Exponent []
  | digits {letter : Char} {sign s : List Char} : letter = 'e' ∨ letter = 'E' →
      sign = [] ∨ sign = ['+'] ∨ sign = ['-'] → Digits s → Exponent (letter :: (sign ++ s))

/-- A number without its sign. -/
inductive UnsignedText : List Char → Prop
  | mk {whole fraction exponent : List Char} {n : Nat} : Decimal whole n → Fraction fraction →
      Exponent exponent → UnsignedText (whole ++ (fraction ++ exponent))

/-- **A number** of any size. -/
inductive NumberText : List Char → Prop
  | unsigned {t : List Char} : UnsignedText t → NumberText t
  | negative {t : List Char} : UnsignedText t → NumberText ('-' :: t)

/-- **The digits of an integer**, with a minus in front where it is negative. -/
inductive Integral : List Char → Int → Prop
  | nonnegative {t : List Char} {n : Nat} : Decimal t n → Integral t n
  | negative {t : List Char} {n : Nat} : Decimal t (n + 1) → Integral ('-' :: t) (.negSucc n)

/-! ## Strings -/

/-- The four digits of a numeric escape and their value. -/
def HexQuad (digits : List Char) (n : Nat) : Prop :=
  ∃ a b c d x y z w, digits = [a, b, c, d] ∧ hexDigit? a = some x ∧ hexDigit? b = some y ∧
    hexDigit? c = some z ∧ hexDigit? d = some w ∧ n = ((x * 16 + y) * 16 + z) * 16 + w

/-- A part of a string between its quotes: a character that needs no escape, or an
escape. -/
inductive StringPart : List Char → Prop
  | plain {c : Char} : ¬ c < ' ' → c ≠ '"' → c ≠ '\\' → StringPart [c]
  | letter {e c : Char} : letterEscape? e = some c → StringPart ['\\', e]
  | code {digits : List Char} {n : Nat} : HexQuad digits n → StringPart ('\\' :: 'u' :: digits)

/-- **What stands between the quotes of a string.** -/
inductive StringText : List Char → Prop
  | nil : StringText []
  | cons {part raw : List Char} : StringPart part → StringText raw → StringText (part ++ raw)

/-- **How one character is written in a string**: as it is, with a letter behind a
backslash, by its number, or by the numbers of two surrogates. -/
inductive SaysChar : List Char → Char → Prop
  | plain {c : Char} : ¬ c < ' ' → c ≠ '"' → c ≠ '\\' → SaysChar [c] c
  | letter {e c : Char} : letterEscape? e = some c → SaysChar ['\\', e] c
  | code {digits : List Char} {n : Nat} : HexQuad digits n → n < 0xD800 ∨ 0xDFFF < n →
      SaysChar ('\\' :: 'u' :: digits) (Char.ofNat n)
  | pair {digits digits' : List Char} {high low : Nat} : HexQuad digits high →
      HexQuad digits' low → 0xD800 ≤ high → high ≤ 0xDBFF → 0xDC00 ≤ low → low ≤ 0xDFFF →
      SaysChar ('\\' :: 'u' :: (digits ++ '\\' :: 'u' :: digits'))
        (Char.ofNat (0x10000 + (high - 0xD800) * 0x400 + (low - 0xDC00)))

/-- **What a string says**, by what stands between its quotes. -/
inductive SaysChars : List Char → List Char → Prop
  | nil : SaysChars [] []
  | cons {part raw chars : List Char} {c : Char} : SaysChar part c → SaysChars raw chars →
      SaysChars (part ++ raw) (c :: chars)

/-- What a string says, as a text. -/
def Says (raw : List Char) (text : String) : Prop := SaysChars raw text.toList

/-! ## Texts -/

/-- **A JSON value** as it stands in a text, without white space. -/
inductive Tree
  | null
  | boolean (b : Bool)
  /-- The number as it is written. -/
  | number (text : List Char)
  /-- What stands between the quotes. -/
  | string (raw : List Char)
  | array (elements : List Tree)
  | object (members : List (List Char × Tree))

/-- White space. -/
def Blank (s : List Char) : Prop := ∀ c ∈ s, isBlank c = true

/-- What stands before a part of an array or an object: white space, and a comma if
it is not the first part. -/
inductive Lead : (fresh : Bool) → List Char → Prop
  | first {b : List Char} : Blank b → Lead true b
  | later {b b' : List Char} : Blank b → Blank b' → Lead false (b ++ ',' :: b')

mutual

/-- **A text of a tree**, without white space around it. -/
inductive Spells : Tree → List Char → Prop
  | null : Spells .null ['n', 'u', 'l', 'l']
  | yes : Spells (.boolean true) ['t', 'r', 'u', 'e']
  | no : Spells (.boolean false) ['f', 'a', 'l', 's', 'e']
  | number {t : List Char} : NumberText t → Spells (.number t) t
  | string {raw : List Char} : StringText raw → Spells (.string raw) ('"' :: (raw ++ ['"']))
  | array {elements : List Tree} {t : List Char} : SpellsElements true elements t →
      Spells (.array elements) ('[' :: t)
  | object {members : List (List Char × Tree)} {t : List Char} : SpellsMembers true members t →
      Spells (.object members) ('\x7b' :: t)

/-- The elements of an array up to its closing bracket; `fresh` tells that none
stands before them. -/
inductive SpellsElements : (fresh : Bool) → List Tree → List Char → Prop
  | close {fresh : Bool} {b : List Char} : Blank b → SpellsElements fresh [] (b ++ [']'])
  | next {fresh : Bool} {tree : Tree} {trees : List Tree} {lead t r : List Char} :
      Lead fresh lead → Spells tree t → SpellsElements false trees r →
      SpellsElements fresh (tree :: trees) (lead ++ (t ++ r))

/-- The members of an object up to its closing bracket. -/
inductive SpellsMembers : (fresh : Bool) → List (List Char × Tree) → List Char → Prop
  | close {fresh : Bool} {b : List Char} : Blank b → SpellsMembers fresh [] (b ++ ['\x7d'])
  | next {fresh : Bool} {key : List Char} {tree : Tree} {members : List (List Char × Tree)}
      {lead b b' t r : List Char} :
      Lead fresh lead → StringText key → Blank b → Blank b' → Spells tree t →
      SpellsMembers false members r →
      SpellsMembers fresh ((key, tree) :: members)
        (lead ++ '"' :: (key ++ '"' :: (b ++ ':' :: (b' ++ (t ++ r)))))

end

/-- **A text of a tree** with white space around it. -/
def IsText (s : List Char) (tree : Tree) : Prop :=
  ∃ b t b', s = b ++ (t ++ b') ∧ Blank b ∧ Spells tree t ∧ Blank b'

/-! ## How parts begin and what follows them -/

/-- What may follow a value: white space, a comma, a closing bracket, or nothing. -/
def Delimited : List Char → Prop
  | [] => True
  | c :: _ => isBlank c = true ∨ c = ',' ∨ c = ']' ∨ c = '\x7d'

theorem blank_nil : Blank [] := by
  intro c hmem
  cases hmem

theorem Blank.append {b b' : List Char} (hb : Blank b) (hb' : Blank b') : Blank (b ++ b') := by
  intro c hmem
  rcases List.mem_append.1 hmem with h | h
  · exact hb c h
  · exact hb' c h

theorem Lead.append_blank {fresh : Bool} {lead b : List Char} (h : Lead fresh lead)
    (hb : Blank b) : Lead fresh (lead ++ b) := by
  cases h with
  | first hlead => exact .first (hlead.append hb)
  | later hlead hlead' =>
    rw [List.append_assoc, List.cons_append]
    exact .later hlead (hlead'.append hb)

theorem delimited_of_blank {b s : List Char} (hb : Blank b) (hs : Delimited s) :
    Delimited (b ++ s) := by
  cases b with
  | nil => exact hs
  | cons c b => exact .inl (hb c List.mem_cons_self)

theorem Blank.delimited {b : List Char} (h : Blank b) : Delimited b := by
  rw [← List.append_nil b]
  exact delimited_of_blank h trivial

theorem Lead.delimited {lead : List Char} (h : Lead false lead) (s : List Char) :
    Delimited (lead ++ s) := by
  cases h with
  | later hb hb' =>
    rw [List.append_assoc]
    exact delimited_of_blank hb (.inr (.inl rfl))

/-- What follows an element of an array delimits it. -/
theorem SpellsElements.delimited {trees : List Tree} {r : List Char}
    (h : SpellsElements false trees r) (s : List Char) : Delimited (r ++ s) := by
  cases h with
  | close hb =>
    rw [List.append_assoc]
    exact delimited_of_blank hb (.inr (.inr (.inl rfl)))
  | next hlead =>
    rw [List.append_assoc]
    exact hlead.delimited _

/-- What follows a member of an object delimits it. -/
theorem SpellsMembers.delimited {members : List (List Char × Tree)} {r : List Char}
    (h : SpellsMembers false members r) (s : List Char) : Delimited (r ++ s) := by
  cases h with
  | close hb =>
    rw [List.append_assoc]
    exact delimited_of_blank hb (.inr (.inr (.inr rfl)))
  | next hlead =>
    rw [List.append_assoc]
    exact hlead.delimited _

/-- Neither a digit nor what could go on with a number follows a value. -/
theorem Delimited.not_number {c : Char} {s : List Char} (h : Delimited (c :: s)) :
    c.isDigit = false ∧ c ≠ '.' ∧ c ≠ 'e' ∧ c ≠ 'E' := by
  rcases h with hblank | rfl | rfl | rfl
  · simp only [isBlank, Bool.or_eq_true, decide_eq_true_eq] at hblank
    rcases hblank with ((rfl | rfl) | rfl) | rfl <;> decide
  all_goals decide

theorem Decimal.exists_cons {s : List Char} {n : Nat} (h : Decimal s n) :
    ∃ c t, s = c :: t ∧ c.isDigit = true := by
  obtain ⟨c, t, rfl⟩ := List.exists_cons_of_ne_nil h.digits.1
  exact ⟨c, t, rfl, h.digits.2 c List.mem_cons_self⟩

/-- Digits alone are a number. -/
theorem Decimal.unsignedText {t : List Char} {n : Nat} (h : Decimal t n) : UnsignedText t := by
  rw [← List.append_nil t]
  exact .mk h .absent .absent

theorem Integral.numberText {t : List Char} {n : Int} (h : Integral t n) : NumberText t := by
  cases h with
  | nonnegative h => exact .unsigned h.unsignedText
  | negative h => exact .negative h.unsignedText

/-- A number without its sign begins with a digit. -/
theorem UnsignedText.exists_cons {t : List Char} (h : UnsignedText t) :
    ∃ c r, t = c :: r ∧ c.isDigit = true := by
  cases h with
  | mk hwhole _ _ =>
    obtain ⟨c, r, rfl, hdigit⟩ := hwhole.exists_cons
    exact ⟨c, _, rfl, hdigit⟩

/-- A number begins with a minus or a digit. -/
theorem NumberText.exists_cons {t : List Char} (h : NumberText t) :
    ∃ c r, t = c :: r ∧ (c = '-' ∨ c.isDigit = true) := by
  cases h with
  | unsigned h =>
    obtain ⟨c, r, rfl, hdigit⟩ := h.exists_cons
    exact ⟨c, r, rfl, .inr hdigit⟩
  | negative h => exact ⟨'-', _, rfl, .inl rfl⟩

/-- No digit is white space or a bracket. -/
theorem isBlank_of_isDigit {c : Char} (h : c.isDigit = true) :
    isBlank c = false ∧ c ≠ ']' := by
  refine ⟨?_, ?_⟩
  · rw [isBlank]
    simp only [Bool.or_eq_false_iff, decide_eq_false_iff_not]
    refine ⟨⟨⟨?_, ?_⟩, ?_⟩, ?_⟩ <;> rintro rfl <;> revert h <;> decide
  · rintro rfl
    revert h
    decide

/-- A value begins with a character that is neither white space nor the end of an
array. -/
theorem Spells.exists_cons {tree : Tree} {t : List Char} (h : Spells tree t) :
    ∃ c r, t = c :: r ∧ isBlank c = false ∧ c ≠ ']' := by
  cases h with
  | number hnumber =>
    obtain ⟨c, r, rfl, rfl | hdigit⟩ := hnumber.exists_cons
    · exact ⟨'-', r, rfl, rfl, by decide⟩
    · exact ⟨c, r, rfl, isBlank_of_isDigit hdigit⟩
  | _ => exact ⟨_, _, rfl, rfl, by decide⟩

end Json

end StackProfiler
