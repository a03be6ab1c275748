import StackProfiler.Json.Value
import StackProfiler.Proofs.Json.Turns
/-!
# JSON — numbers

An integer is read exactly where its digits stand in the text, with no zero in front
of others and a minus only where it is negative. A number with a fraction or an
exponent, `-0`, and a number beyond 64 bits never come out as integers. Skipping takes
numbers of any kind and size.
-/

namespace StackProfiler

namespace Json

/-! ## Digits -/

theorem Delimited.digitNext_eq_false {s : List Char} (h : Delimited s) : digitNext s = false := by
  cases s with
  | nil => rfl
  | cons c s => exact h.not_number.1

/-- As many digits as there are stand in front of what does not begin with one. -/
theorem takeWhile_digits {t rest : List Char} (ht : ∀ c ∈ t, c.isDigit = true)
    (hrest : digitNext rest = false) : (t ++ rest).takeWhile Char.isDigit = t := by
  rw [List.takeWhile_append_of_pos ht]
  cases rest with
  | nil => exact List.append_nil t
  | cons c rest =>
    rw [List.takeWhile_cons_of_neg (by simpa [digitNext] using hrest), List.append_nil]

theorem dropWhile_digits {t rest : List Char} (ht : ∀ c ∈ t, c.isDigit = true)
    (hrest : digitNext rest = false) : (t ++ rest).dropWhile Char.isDigit = rest := by
  rw [List.dropWhile_append_of_pos ht]
  cases rest with
  | nil => rfl
  | cons c rest =>
    rw [List.dropWhile_cons_of_neg (by simpa [digitNext] using hrest)]

/-- The digits in front of a text, and what follows them. -/
theorem exists_digits (s : List Char) :
    s = s.takeWhile Char.isDigit ++ s.dropWhile Char.isDigit ∧
      ∀ c ∈ s.takeWhile Char.isDigit, c.isDigit = true :=
  ⟨List.takeWhile_append_dropWhile.symm, fun c hmem => List.all_eq_true.1 List.all_takeWhile c hmem⟩

/-- One digit more. -/
theorem ofDigitChars_cons (c : Char) (s : List Char) (n : Nat) :
    Nat.ofDigitChars 10 (c :: s) n = Nat.ofDigitChars 10 s (n * 10 + digitValue c) := by
  rw [Nat.ofDigitChars_cons, Nat.mul_comm]
  rfl

/-- More digits make no smaller number. -/
theorem le_ofDigitChars (s : List Char) (n : Nat) : n ≤ Nat.ofDigitChars 10 s n := by
  induction s generalizing n with
  | nil => exact Nat.le_of_eq Nat.ofDigitChars_nil.symm
  | cons c s ih =>
    rw [ofDigitChars_cons]
    exact Nat.le_trans (by omega) (ih _)

theorem foldl_digits (s : List Char) (n : Nat) :
    s.foldl (fun n c => n * 10 + digitValue c) n = Nat.ofDigitChars 10 s n := by
  induction s generalizing n with
  | nil => rw [Nat.ofDigitChars_nil, List.foldl_nil]
  | cons c s ih => rw [List.foldl_cons, ih, ofDigitChars_cons]

/-- The digits that are taken make the number. -/
theorem exists_of_takeDigits (n count : Nat) (s : List Char) :
    ∃ t, s = t ++ (takeDigits n count s).2.2 ∧ (∀ c ∈ t, c.isDigit = true) ∧
      Nat.ofDigitChars 10 t n = (takeDigits n count s).1 := by
  fun_induction takeDigits n count s with
  | case1 n count => exact ⟨[], rfl, by simp, Nat.ofDigitChars_nil⟩
  | case2 n count c s htake ih =>
    obtain ⟨t, hs, ht, hn⟩ := ih
    have hdigit : c.isDigit = true := (Bool.and_eq_true _ _ ▸ htake).1
    refine ⟨c :: t, by rw [List.cons_append, ← hs], ?_, by rw [ofDigitChars_cons, hn]⟩
    intro d hmem
    rcases List.mem_cons.1 hmem with rfl | hmem
    · exact hdigit
    · exact ht d hmem
  | case3 n count c s => exact ⟨[], rfl, by simp, Nat.ofDigitChars_nil⟩

/-- All digits are taken where their number fits. -/
theorem takeDigits_append {t rest : List Char} {n count : Nat} (ht : ∀ c ∈ t, c.isDigit = true)
    (hfits : Nat.ofDigitChars 10 t n < UInt64.size) (hrest : digitNext rest = false) :
    takeDigits n count (t ++ rest) = (Nat.ofDigitChars 10 t n, count + t.length, rest) := by
  induction t generalizing n count with
  | nil =>
    cases rest with
    | nil => rfl
    | cons c rest =>
      have hc : c.isDigit = false := hrest
      simp [takeDigits, hc]
  | cons c t ih =>
    rw [ofDigitChars_cons] at hfits ⊢
    have hle := le_ofDigitChars t (n * 10 + digitValue c)
    have htake : (c.isDigit && decide (n * 10 + digitValue c < UInt64.size)) = true := by
      rw [ht c List.mem_cons_self, Bool.true_and, decide_eq_true_iff]
      omega
    rw [List.cons_append, takeDigits, if_pos htake,
      ih (fun d hmem => ht d (List.mem_cons_of_mem c hmem)) hfits, List.length_cons]
    simp only [Prod.mk.injEq, true_and, and_true]
    omega

/-! ## Whole numbers -/

theorem decimal_zero : Decimal ['0'] 0 := by
  refine ⟨⟨by simp, ?_⟩, fun _ => rfl, by decide⟩
  intro c hmem
  rw [List.mem_singleton.1 hmem]
  rfl

/-- Digits of which the first is not zero. -/
theorem decimal_cons {c : Char} {t : List Char} (hc : c.isDigit = true) (hzero : c ≠ '0')
    (ht : ∀ d ∈ t, d.isDigit = true) :
    Decimal (c :: t) (Nat.ofDigitChars 10 t (digitValue c)) := by
  refine ⟨⟨by simp, ?_⟩, ?_, ?_⟩
  · intro d hmem
    rcases List.mem_cons.1 hmem with rfl | hmem
    · exact hc
    · exact ht d hmem
  · intro hhead
    exact absurd (Option.some.inj hhead) hzero
  · rw [ofDigitChars_cons, Nat.zero_mul, Nat.zero_add]

/-- Digits are a zero alone, or begin with another digit. -/
theorem Decimal.cases {t : List Char} {n : Nat} (h : Decimal t n) :
    (t = ['0'] ∧ n = 0) ∨ ∃ c r, t = c :: r ∧ c.isDigit = true ∧ c ≠ '0' ∧
      (∀ d ∈ r, d.isDigit = true) ∧ Nat.ofDigitChars 10 r (digitValue c) = n := by
  obtain ⟨c, r, rfl, hc⟩ := h.exists_cons
  rcases Decidable.em (c = '0') with rfl | hzero
  · obtain ⟨rfl⟩ : r = [] := (List.cons.inj (h.zero_alone rfl)).2
    exact .inl ⟨rfl, h.value.symm⟩
  · refine .inr ⟨c, r, rfl, hc, hzero, fun d hmem => h.digits.2 d (List.mem_cons_of_mem c hmem), ?_⟩
    rw [← h.value, ofDigitChars_cons, Nat.zero_mul, Nat.zero_add]

/-- A whole number that is read without dropping a digit is that of its digits. -/
theorem exists_of_readWhole {s rest : List Char} {n : Nat}
    (h : readWhole s = .ok (n, 0, rest)) : ∃ t, s = t ++ rest ∧ Decimal t n := by
  unfold readWhole at h
  split at h
  · cases h
  · next c s =>
    split at h
    · next hzero =>
      split at h
      · cases h
      · cases h
        exact ⟨['0'], by rw [hzero]; rfl, decimal_zero⟩
    · next hzero =>
      split at h
      · next hc =>
        obtain ⟨t, hs, ht, hn⟩ := exists_of_takeDigits (digitValue c) 1 s
        generalize takeDigits (digitValue c) 1 s = taken at h hs hn
        obtain ⟨m, count, left⟩ := taken
        simp only [Except.ok.injEq, Prod.mk.injEq, List.length_eq_zero_iff] at h
        obtain ⟨rfl, hnone, rfl⟩ := h
        have hleft := (exists_digits left).1
        rw [hnone, List.nil_append] at hleft
        obtain rfl : Nat.ofDigitChars 10 t (digitValue c) = m := hn
        exact ⟨c :: t, by rw [List.cons_append, ← hleft, ← hs], decimal_cons hc hzero ht⟩
      · cases h

/-- The digits of a number that fits are read to their end. -/
theorem readWhole_append {t rest : List Char} {n : Nat} (h : Decimal t n)
    (hfits : n < UInt64.size) (hrest : digitNext rest = false) :
    readWhole (t ++ rest) = .ok (n, 0, rest) := by
  rcases h.cases with ⟨rfl, rfl⟩ | ⟨c, r, rfl, hc, hzero, hr, rfl⟩
  · simp [readWhole, hrest]
  · have hnone : rest.takeWhile Char.isDigit = [] := takeWhile_digits (t := []) (by simp) hrest
    have hall : rest.dropWhile Char.isDigit = rest := dropWhile_digits (t := []) (by simp) hrest
    simp [readWhole, hzero, hc, takeDigits_append hr hfits hrest, hnone, hall]

/-! ## Integers -/

/-- No integer comes from a significand with an exponent. -/
theorem floatOfParts_ne_integer {negative : Bool} {significand : Nat} {exponent n : Int} :
    floatOfParts negative significand exponent ≠ .ok (.integer n) := by
  intro h
  simp only [floatOfParts] at h
  split at h
  · cases h
  · split at h
    · split at h <;> cases h
    · split at h <;> cases h

theorem readScaled_ne_integer {negative : Bool} {significand : Nat} {shift n : Int}
    {s rest : List Char} : readScaled negative significand shift s ≠ .ok (.integer n, rest) := by
  intro h
  unfold readScaled at h
  split at h
  · obtain ⟨x, hx, heq⟩ := map_eq_ok_iff.1 h
    cases heq
    exact floatOfParts_ne_integer hx
  · split at h
    · split at h
      · cases h
      · obtain ⟨x, hx, heq⟩ := map_eq_ok_iff.1 h
        cases heq
        exact floatOfParts_ne_integer hx
    · obtain ⟨x, hx, heq⟩ := map_eq_ok_iff.1 h
      cases heq
      exact floatOfParts_ne_integer hx

theorem integerOfParts_eq_ok_iff {negative : Bool} {n : Nat} {m : Int} :
    integerOfParts negative n = .ok (.integer m) ↔
      (negative = false ∧ m = n) ∨
        (negative = true ∧ n ≠ 0 ∧ n ≤ 9_223_372_036_854_775_808 ∧ m = -n) := by
  cases negative with
  | false =>
    simp [integerOfParts, eq_comm]
  | true =>
    simp only [integerOfParts, Bool.not_true, Bool.false_eq_true, if_false, Bool.or_eq_true,
      decide_eq_true_eq, false_and, false_or, true_and, reduceCtorEq]
    split
    · next hfloat =>
      constructor
      · intro h
        exact absurd h floatOfParts_ne_integer
      · rintro ⟨hne, hle, -⟩
        omega
    · next hfits =>
      simp only [Except.ok.injEq, Number.integer.injEq]
      constructor
      · rintro rfl
        exact ⟨by omega, by omega, rfl⟩
      · rintro ⟨-, -, rfl⟩
        rfl

/-- An integer that is read behind its sign is that of the digits there. -/
theorem exists_of_readUnsigned {negative : Bool} {s rest : List Char} {m : Int}
    (h : readUnsigned negative s = .ok (.integer m, rest)) :
    ∃ t n, s = t ++ rest ∧ Decimal t n ∧ integerOfParts negative n = .ok (.integer m) := by
  unfold readUnsigned at h
  split at h
  · cases h
  · next n dropped hwhole =>
    obtain ⟨x, hx, heq⟩ := map_eq_ok_iff.1 h
    cases heq
    split at hx
    · next hnone =>
      obtain ⟨t, rfl, ht⟩ := exists_of_readWhole (hnone ▸ hwhole)
      exact ⟨t, n, rfl, ht, hx⟩
    · exact absurd hx floatOfParts_ne_integer
  · next n dropped c r hwhole =>
    split at h
    · split at h
      · cases h
      · exact absurd h readScaled_ne_integer
    · split at h
      · exact absurd h readScaled_ne_integer
      · next hplain =>
        obtain ⟨x, hx, heq⟩ := map_eq_ok_iff.1 h
        cases heq
        simp only [Bool.or_eq_true, decide_eq_true_eq, not_or, ne_eq, Classical.not_not] at hplain
        have hnone : dropped = 0 := hplain.2
        obtain ⟨t, rfl, ht⟩ := exists_of_readWhole (hnone ▸ hwhole)
        exact ⟨t, n, rfl, ht, hx⟩

/-- The digits of an integer are read to their end where a value may end. -/
theorem readUnsigned_append {negative : Bool} {t rest : List Char} {n : Nat} {m : Int}
    (h : Decimal t n) (hfits : n < UInt64.size)
    (hm : integerOfParts negative n = .ok (.integer m)) (hrest : Delimited rest) :
    readUnsigned negative (t ++ rest) = .ok (.integer m, rest) := by
  rw [readUnsigned, readWhole_append h hfits hrest.digitNext_eq_false]
  cases rest with
  | nil => simp [hm, Except.map]
  | cons c rest =>
    obtain ⟨-, hdot, he, hE⟩ := hrest.not_number
    simp [hdot, he, hE, hm, Except.map]

/-- An integer that is read has its digits in the text. -/
theorem exists_of_readNumber {s rest : List Char} {m : Int}
    (h : readNumber s = .ok (.integer m, rest)) : ∃ t, s = t ++ rest ∧ Integral t m := by
  unfold readNumber at h
  split at h
  · next s =>
    obtain ⟨t, n, rfl, ht, hm⟩ := exists_of_readUnsigned h
    rcases integerOfParts_eq_ok_iff.1 hm with ⟨hfalse, -⟩ | ⟨-, hne, -, rfl⟩
    · cases hfalse
    · obtain ⟨k, rfl⟩ := Nat.exists_eq_succ_of_ne_zero hne
      exact ⟨'-' :: t, rfl, .negative ht⟩
  · obtain ⟨t, n, rfl, ht, hm⟩ := exists_of_readUnsigned h
    rcases integerOfParts_eq_ok_iff.1 hm with ⟨-, rfl⟩ | ⟨htrue, -⟩
    · exact ⟨t, rfl, .nonnegative ht⟩
    · cases htrue

/-- An integer of 64 bits is read to the end of its digits. -/
theorem readNumber_append {t rest : List Char} {m : Int} (h : Integral t m)
    (hleast : -9_223_372_036_854_775_808 ≤ m) (hgreatest : m ≤ 18_446_744_073_709_551_615)
    (hrest : Delimited rest) : readNumber (t ++ rest) = .ok (.integer m, rest) := by
  have hsize : UInt64.size = 18_446_744_073_709_551_616 := rfl
  cases h with
  | @nonnegative _ n h =>
    obtain ⟨c, r, rfl, hc⟩ := h.exists_cons
    have hminus : c ≠ '-' := by
      rintro rfl
      cases hc
    unfold readNumber
    split
    · next heq => exact absurd (List.cons.inj heq).1 hminus
    · exact readUnsigned_append h (by omega) (integerOfParts_eq_ok_iff.2 (.inl ⟨rfl, rfl⟩)) hrest
  | @negative t n h =>
    exact readUnsigned_append h (by omega)
      (integerOfParts_eq_ok_iff.2 (.inr ⟨rfl, by omega, by omega, rfl⟩)) hrest

/-- An integer between two bounds is read exactly within them. -/
theorem exists_of_readInteger {expected : String} {least greatest n : Int} {s rest : List Char}
    (h : readInteger expected least greatest s = .ok (n, rest)) :
    ∃ b t, s = b ++ (t ++ rest) ∧ Blank b ∧ Integral t n ∧ least ≤ n ∧ n ≤ greatest := by
  unfold readInteger at h
  split at h
  · cases h
  · next hskip =>
    obtain ⟨b, rfl, hb⟩ := of_skipBlank_eq_cons hskip
    split at h
    · split at h
      · cases h
      · cases h
      · next hnumber =>
        split at h
        · next hrange =>
          cases h
          obtain ⟨t, ht, hintegral⟩ := exists_of_readNumber hnumber
          simp only [Bool.and_eq_true, decide_eq_true_eq] at hrange
          exact ⟨b, t, by rw [ht], hb, hintegral, hrange⟩
        · cases h
    · cases h

theorem readInteger_append {expected : String} {least greatest n : Int} {b t rest : List Char}
    (hb : Blank b) (h : Integral t n) (hle : least ≤ n) (hle' : n ≤ greatest)
    (hleast : -9_223_372_036_854_775_808 ≤ least)
    (hgreatest : greatest ≤ 18_446_744_073_709_551_615) (hrest : Delimited rest) :
    readInteger expected least greatest (b ++ (t ++ rest)) = .ok (n, rest) := by
  have hread := readNumber_append h (Int.le_trans hleast hle) (Int.le_trans hle' hgreatest) hrest
  obtain ⟨c, r, rfl, hc⟩ := h.numberText.exists_cons
  have hblank : isBlank c = false := by
    rcases hc with rfl | hc
    · rfl
    · exact (isBlank_of_isDigit hc).1
  have hnumber : (decide (c = '-') || c.isDigit) = true := by
    simpa only [Bool.or_eq_true, decide_eq_true_eq] using hc
  rw [List.cons_append] at hread ⊢
  rw [readInteger, skipBlank_append_cons hb hblank]
  simp [hnumber, hread, hle, hle']

/-- An integer of 128 bits is read exactly where its digits stand. -/
theorem exists_of_readWideInteger {s rest : List Char} {n : BitVec 128}
    (h : readWideInteger s = .ok (n, rest)) :
    ∃ b t, s = b ++ (t ++ rest) ∧ Blank b ∧ Decimal t n.toNat := by
  unfold readWideInteger at h
  split at h
  · cases h
  · next c s hskip =>
    obtain ⟨b, rfl, hb⟩ := of_skipBlank_eq_cons hskip
    split at h
    · next hzero =>
      split at h
      · cases h
      · cases h
        exact ⟨b, ['0'], by rw [hzero]; rfl, hb, decimal_zero⟩
    · next hzero =>
      split at h
      · next hc =>
        obtain ⟨hs, hdigits⟩ := exists_digits s
        simp only [List.takeWhile_cons_of_pos hc, foldl_digits, ofDigitChars_cons, Nat.zero_mul,
          Nat.zero_add] at h
        split at h
        · next hfits =>
          cases h
          refine ⟨b, c :: s.takeWhile Char.isDigit, by rw [List.cons_append, ← hs], hb, ?_⟩
          rw [BitVec.toNat_ofNat, Nat.mod_eq_of_lt hfits]
          exact decimal_cons hc hzero hdigits
        · cases h
      · cases h

theorem readWideInteger_append {b t rest : List Char} {n : BitVec 128} (hb : Blank b)
    (h : Decimal t n.toNat) (hrest : Delimited rest) :
    readWideInteger (b ++ (t ++ rest)) = .ok (n, rest) := by
  have hnext := hrest.digitNext_eq_false
  rcases h.cases with ⟨rfl, hn⟩ | ⟨c, r, rfl, hc, hzero, hr, hn⟩
  · have hn' : n = 0 := BitVec.eq_of_toNat_eq hn
    rw [List.singleton_append, readWideInteger, skipBlank_append_cons hb (by decide)]
    simp [hnext, hn']
  · have hfits : n.toNat < 340_282_366_920_938_463_463_374_607_431_768_211_456 := n.isLt
    rw [List.cons_append, readWideInteger, skipBlank_append_cons hb (isBlank_of_isDigit hc).1]
    simp only [hzero, if_false, hc, if_true, List.takeWhile_cons_of_pos hc, foldl_digits,
      ofDigitChars_cons, Nat.zero_mul, Nat.zero_add, takeWhile_digits hr hnext,
      dropWhile_digits hr hnext, hn, hfits, BitVec.ofNat_toNat, BitVec.setWidth_eq]

/-! ## Numbers that are skipped -/

theorem exists_of_skipDigits {s rest : List Char} (h : skipDigits s = .ok rest) :
    ∃ t, s = t ++ rest ∧ Digits t := by
  unfold skipDigits at h
  split at h
  · next hnext =>
    cases h
    obtain ⟨hs, hdigits⟩ := exists_digits s
    refine ⟨s.takeWhile Char.isDigit, hs, ?_, hdigits⟩
    cases s with
    | nil => cases hnext
    | cons c s =>
      have hc : c.isDigit = true := hnext
      rw [List.takeWhile_cons_of_pos hc]
      exact List.cons_ne_nil _ _
  · cases h

theorem skipDigits_append {t rest : List Char} (h : Digits t) (hrest : digitNext rest = false) :
    skipDigits (t ++ rest) = .ok rest := by
  obtain ⟨c, r, rfl⟩ := List.exists_cons_of_ne_nil h.1
  have hnext : digitNext (c :: r ++ rest) = true := h.2 c List.mem_cons_self
  rw [skipDigits, if_pos hnext, dropWhile_digits h.2 hrest]

theorem exists_of_skipExponent {s rest : List Char} (h : skipExponent s = .ok rest) :
    ∃ t, s = t ++ rest ∧ Exponent t := by
  unfold skipExponent at h
  split at h
  · cases h
    exact ⟨[], rfl, .absent⟩
  · next c s =>
    split at h
    · next hletter =>
      simp only [Bool.or_eq_true, decide_eq_true_eq] at hletter
      obtain ⟨t, hs, ht⟩ := exists_of_skipDigits h
      unfold splitSign at hs
      split at hs
      · exact ⟨c :: (['-'] ++ t), congrArg (c :: '-' :: ·) hs, .digits hletter (.inr (.inr rfl)) ht⟩
      · exact ⟨c :: (['+'] ++ t), congrArg (c :: '+' :: ·) hs, .digits hletter (.inr (.inl rfl)) ht⟩
      · exact ⟨c :: ([] ++ t), congrArg (c :: ·) hs, .digits hletter (.inl rfl) ht⟩
    · cases h
      exact ⟨[], rfl, .absent⟩

theorem splitSign_append {sign s : List Char} (h : sign = [] ∨ sign = ['+'] ∨ sign = ['-'])
    (hs : Digits s) (rest : List Char) : (splitSign (sign ++ (s ++ rest))).2 = s ++ rest := by
  rcases h with rfl | rfl | rfl
  · obtain ⟨c, r, rfl⟩ := List.exists_cons_of_ne_nil hs.1
    have hc := hs.2 c List.mem_cons_self
    unfold splitSign
    split
    · next heq =>
      rw [(List.cons.inj heq).1] at hc
      cases hc
    · next heq =>
      rw [(List.cons.inj heq).1] at hc
      cases hc
    · rfl
  · rfl
  · rfl

theorem skipExponent_append {t rest : List Char} (h : Exponent t) (hrest : Delimited rest) :
    skipExponent (t ++ rest) = .ok rest := by
  cases h with
  | absent =>
    cases rest with
    | nil => rfl
    | cons c rest =>
      obtain ⟨-, -, he, hE⟩ := hrest.not_number
      simp [skipExponent, he, hE]
  | @digits letter sign s hletter hsign hs =>
    have hexponent : (decide (letter = 'e') || decide (letter = 'E')) = true := by
      simpa only [Bool.or_eq_true, decide_eq_true_eq] using hletter
    rw [List.cons_append, List.append_assoc, skipExponent, if_pos hexponent,
      splitSign_append hsign hs, skipDigits_append hs hrest.digitNext_eq_false]

/-- What follows the digits of a number is no digit. -/
theorem Exponent.digitNext_eq_false {t rest : List Char} (h : Exponent t)
    (hrest : Delimited rest) : digitNext (t ++ rest) = false := by
  cases h with
  | absent => exact hrest.digitNext_eq_false
  | digits hletter => rcases hletter with rfl | rfl <;> rfl

theorem exists_of_skipFraction {s rest : List Char} (h : skipFraction s = .ok rest) :
    ∃ f e, s = f ++ (e ++ rest) ∧ Fraction f ∧ Exponent e := by
  unfold skipFraction at h
  split at h
  · split at h
    · cases h
    · next hdigits =>
      obtain ⟨t, rfl, ht⟩ := exists_of_skipDigits hdigits
      obtain ⟨e, rfl, he⟩ := exists_of_skipExponent h
      exact ⟨'.' :: t, e, rfl, .digits ht, he⟩
  · obtain ⟨e, rfl, he⟩ := exists_of_skipExponent h
    exact ⟨[], e, rfl, .absent, he⟩

theorem skipFraction_append {f e rest : List Char} (hf : Fraction f) (he : Exponent e)
    (hrest : Delimited rest) : skipFraction (f ++ (e ++ rest)) = .ok rest := by
  cases hf with
  | absent =>
    rw [List.nil_append]
    unfold skipFraction
    split
    · next heq =>
      cases he with
      | absent =>
        rw [List.nil_append] at heq
        subst heq
        exact absurd rfl hrest.not_number.2.1
      | digits hletter =>
        rw [(List.cons.inj heq).1] at hletter
        rcases hletter with hletter | hletter <;> cases hletter
    · exact skipExponent_append he hrest
  | digits hs =>
    simp only [List.cons_append, skipFraction, skipDigits_append hs (he.digitNext_eq_false hrest),
      skipExponent_append he hrest]

theorem Fraction.digitNext_eq_false {f e rest : List Char} (hf : Fraction f) (he : Exponent e)
    (hrest : Delimited rest) : digitNext (f ++ (e ++ rest)) = false := by
  cases hf with
  | absent => exact he.digitNext_eq_false hrest
  | digits => rfl

/-- A number that is skipped is one. -/
theorem exists_of_skipNumber {s rest : List Char} (h : skipNumber s = .ok rest) :
    ∃ t, s = t ++ rest ∧ UnsignedText t := by
  unfold skipNumber at h
  split at h
  · cases h
  · next c s =>
    split at h
    · next hzero =>
      split at h
      · cases h
      · obtain ⟨f, e, rfl, hf, he⟩ := exists_of_skipFraction h
        exact ⟨['0'] ++ (f ++ e), by simp [hzero], .mk decimal_zero hf he⟩
    · next hzero =>
      split at h
      · next hc =>
        obtain ⟨f, e, hs, hf, he⟩ := exists_of_skipFraction h
        obtain ⟨hsplit, hdigits⟩ := exists_digits s
        refine ⟨c :: s.takeWhile Char.isDigit ++ (f ++ e), ?_,
          .mk (decimal_cons hc hzero hdigits) hf he⟩
        rw [hs] at hsplit
        rw [List.append_assoc, List.append_assoc, List.cons_append, ← hsplit]
      · cases h

/-- A number is skipped to its end where a value may end. -/
theorem skipNumber_append {t rest : List Char} (h : UnsignedText t) (hrest : Delimited rest) :
    skipNumber (t ++ rest) = .ok rest := by
  cases h with
  | mk hwhole hf he =>
    have hnext := hf.digitNext_eq_false he hrest
    rw [List.append_assoc, List.append_assoc]
    rcases hwhole.cases with ⟨rfl, -⟩ | ⟨c, r, rfl, hc, hzero, hr, -⟩
    · simp [skipNumber, hnext, skipFraction_append hf he hrest]
    · rw [List.cons_append, skipNumber, if_neg hzero, if_pos hc, dropWhile_digits hr hnext,
        skipFraction_append hf he hrest]

end Json

end StackProfiler
