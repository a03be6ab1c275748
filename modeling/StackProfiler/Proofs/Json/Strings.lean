import StackProfiler.Proofs.Json.Turns
/-!
# JSON — strings

Reading a string up to its closing quote succeeds exactly where the text says some
characters, and gives these. Skipping one succeeds exactly where the text is that of
a string, whether or not it says anything.
-/

namespace StackProfiler

namespace Json

/-! ## Numeric escapes -/

theorem readHexQuad_eq_ok_iff {s rest : List Char} {n : Nat} :
    readHexQuad s = .ok (n, rest) ↔ ∃ digits, s = digits ++ rest ∧ HexQuad digits n := by
  constructor
  · intro h
    unfold readHexQuad at h
    split at h
    · next a b c d _ =>
      split at h
      · next x y z w ha hb hc hd =>
        cases h
        exact ⟨[a, b, c, d], rfl, a, b, c, d, x, y, z, w, rfl, ha, hb, hc, hd, rfl⟩
      · cases h
    · split at h <;> cases h
  · rintro ⟨digits, rfl, a, b, c, d, x, y, z, w, rfl, ha, hb, hc, hd, rfl⟩
    simp [readHexQuad, ha, hb, hc, hd]

theorem readHexQuad_append {digits : List Char} {n : Nat} (h : HexQuad digits n)
    (s : List Char) : readHexQuad (digits ++ s) = .ok (n, s) :=
  readHexQuad_eq_ok_iff.2 ⟨digits, rfl, h⟩

theorem isLowSurrogate_eq_true_iff {n : Nat} :
    isLowSurrogate n = true ↔ 0xDC00 ≤ n ∧ n ≤ 0xDFFF := by
  simp [isLowSurrogate]

theorem isHighSurrogate_eq_true_iff {n : Nat} :
    isHighSurrogate n = true ↔ 0xD800 ≤ n ∧ n ≤ 0xDBFF := by
  simp [isHighSurrogate]

/-- A number that is neither half of a pair is no surrogate. -/
theorem not_surrogate_iff {n : Nat} :
    isLowSurrogate n = false ∧ isHighSurrogate n = false ↔ n < 0xD800 ∨ 0xDFFF < n := by
  simp only [isLowSurrogate, isHighSurrogate, Bool.and_eq_false_iff, decide_eq_false_iff_not]
  omega

/-- No surrogate is both halves of a pair. -/
theorem not_low_of_high {n : Nat} (h : isHighSurrogate n = true) : isLowSurrogate n = false := by
  have hhigh := isHighSurrogate_eq_true_iff.1 h
  simp only [isLowSurrogate, Bool.and_eq_false_iff, decide_eq_false_iff_not]
  omega

/-- The low surrogate that is read makes a character with the high one. -/
theorem saysChar_of_readLowSurrogate {digits s rest : List Char} {high : Nat} {c : Char}
    (hdigits : HexQuad digits high) (hhigh : isHighSurrogate high = true)
    (h : readLowSurrogate high s = .ok (c, rest)) :
    ∃ part, s = part ++ rest ∧ SaysChar ('\\' :: 'u' :: (digits ++ part)) c := by
  obtain ⟨hle, hle'⟩ := isHighSurrogate_eq_true_iff.1 hhigh
  unfold readLowSurrogate at h
  split at h
  · cases h
  · next hword =>
    split at h
    · cases h
    · next low _ hquad =>
      split at h
      · next hlow =>
        obtain ⟨rfl, rfl⟩ := Prod.mk.inj (Except.ok.inj h)
        obtain ⟨digits', rfl, hdigits'⟩ := readHexQuad_eq_ok_iff.1 hquad
        obtain ⟨hlo, hlo'⟩ := isLowSurrogate_eq_true_iff.1 hlow
        exact ⟨'\\' :: 'u' :: digits', (afterWord_eq_ok_iff.1 hword).trans rfl,
          .pair hdigits hdigits' hle hle' hlo hlo'⟩
      · cases h

/-! ## Escapes -/

/-- An escape that is read says its character. -/
theorem saysChar_of_readEscape {s rest : List Char} {c : Char}
    (h : readEscape s = .ok (c, rest)) :
    ∃ part, s = part ++ rest ∧ SaysChar ('\\' :: part) c := by
  unfold readEscape at h
  split at h
  · cases h
  · next e s =>
    split at h
    · next hu =>
      subst hu
      unfold readNumericEscape at h
      split at h
      · cases h
      · next n _ hquad =>
        obtain ⟨digits, rfl, hdigits⟩ := readHexQuad_eq_ok_iff.1 hquad
        split at h
        · cases h
        · next hlow =>
          split at h
          · next hhigh =>
            obtain ⟨part, rfl, hchar⟩ := saysChar_of_readLowSurrogate hdigits hhigh h
            exact ⟨'u' :: (digits ++ part), by simp, hchar⟩
          · next hhigh =>
            cases h
            exact ⟨'u' :: digits, rfl, .code hdigits
              (not_surrogate_iff.1 ⟨Bool.not_eq_true _ ▸ hlow, Bool.not_eq_true _ ▸ hhigh⟩)⟩
    · split at h
      · next hletter =>
        cases h
        exact ⟨[e], rfl, .letter hletter⟩
      · cases h

/-- An escape that is skipped is part of a string. -/
theorem stringPart_of_skipEscape {s rest : List Char} (h : skipEscape s = .ok rest) :
    ∃ part, s = part ++ rest ∧ StringPart ('\\' :: part) := by
  unfold skipEscape at h
  split at h
  · cases h
  · next e s =>
    split at h
    · next hu =>
      obtain ⟨⟨n, rest⟩, hquad, rfl⟩ := map_eq_ok_iff.1 h
      obtain ⟨digits, rfl, hdigits⟩ := readHexQuad_eq_ok_iff.1 hquad
      exact ⟨e :: digits, rfl, hu ▸ .code hdigits⟩
    · split at h
      · next hletter =>
        cases h
        exact ⟨[e], rfl, .letter hletter⟩
      · cases h

/-- No letter behind a backslash is the one of a numeric escape. -/
theorem ne_u_of_letterEscape {e c : Char} (h : letterEscape? e = some c) : e ≠ 'u' := by
  rintro rfl
  cases h

/-! ## Strings that are read -/

/-- Reading goes on behind each character. -/
theorem readChars_append {part : List Char} {c : Char} (h : SaysChar part c) (s : List Char) :
    readChars (part ++ s) = (readChars s).map fun (chars, rest) => (c :: chars, rest) := by
  cases h with
  | plain hcontrol hquote hbackslash =>
    simp only [List.singleton_append, readChars_cons, if_neg hquote, if_neg hbackslash,
      if_neg hcontrol]
  | letter hletter =>
    simp [readChars_cons, readEscape, ne_u_of_letterEscape hletter, hletter, bind, Except.bind]
  | code hdigits hplain =>
    obtain ⟨hlow, hhigh⟩ := not_surrogate_iff.2 hplain
    simp [readChars_cons, readEscape, readNumericEscape, readHexQuad_append hdigits, hlow, hhigh,
      bind, Except.bind]
  | @pair _ _ high low hdigits hdigits' hle hle' hlo hlo' =>
    have hhigh := isHighSurrogate_eq_true_iff.2 ⟨hle, hle'⟩
    have hlow := isLowSurrogate_eq_true_iff.2 ⟨hlo, hlo'⟩
    have hnot := not_low_of_high hhigh
    simp [readChars_cons, readEscape, readNumericEscape, readHexQuad_append hdigits, hnot, hhigh,
      readLowSurrogate, afterWord, readHexQuad_append hdigits', hlow, bind, Except.bind]

/-- **Reading a string** succeeds exactly where the text says characters. -/
theorem readChars_eq_ok_iff {s chars rest : List Char} :
    readChars s = .ok (chars, rest) ↔ ∃ raw, s = raw ++ '"' :: rest ∧ SaysChars raw chars := by
  constructor
  · intro h
    fun_induction readChars s generalizing chars with
    | case1 => cases h
    | case2 => cases h; exact ⟨[], rfl, .nil⟩
    | case3 => cases h
    | case4 _ _ _ hescape _ _ ih =>
      obtain ⟨⟨cs, r⟩, hread, heq⟩ := map_eq_ok_iff.1 h
      cases heq
      obtain ⟨part, rfl, hpart⟩ := saysChar_of_readEscape hescape
      obtain ⟨raw, rfl, hraw⟩ := ih hread
      exact ⟨'\\' :: part ++ raw, by simp, .cons hpart hraw⟩
    | case5 => cases h
    | case6 c _ hquote hbackslash hcontrol ih =>
      obtain ⟨⟨cs, r⟩, hread, heq⟩ := map_eq_ok_iff.1 h
      cases heq
      obtain ⟨raw, rfl, hraw⟩ := ih hread
      exact ⟨[c] ++ raw, rfl, .cons (.plain hcontrol hquote hbackslash) hraw⟩
  · rintro ⟨raw, rfl, hraw⟩
    induction hraw with
    | nil => rw [List.nil_append, readChars_cons, if_pos rfl]
    | cons hpart _ ih =>
      rw [List.append_assoc, readChars_append hpart, ih]
      rfl

theorem readString_eq_ok_iff {s rest : List Char} {text : String} :
    readString s = .ok (text, rest) ↔ ∃ raw, s = raw ++ '"' :: rest ∧ Says raw text := by
  rw [readString, map_eq_ok_iff]
  constructor
  · rintro ⟨⟨chars, r⟩, hread, heq⟩
    cases heq
    obtain ⟨raw, rfl, hraw⟩ := readChars_eq_ok_iff.1 hread
    exact ⟨raw, rfl, by rwa [Says, String.toList_ofList]⟩
  · rintro ⟨raw, rfl, hraw⟩
    exact ⟨(text.toList, rest), readChars_eq_ok_iff.2 ⟨raw, rfl, hraw⟩,
      congrArg (·, rest) String.ofList_toList⟩

theorem readString_append {raw : List Char} {text : String} (h : Says raw text)
    (rest : List Char) : readString (raw ++ '"' :: rest) = .ok (text, rest) :=
  readString_eq_ok_iff.2 ⟨raw, rfl, h⟩

/-! ## Strings that are skipped -/

/-- Skipping goes on behind each part. -/
theorem skipChars_append {part : List Char} (h : StringPart part) (s : List Char) :
    skipChars (part ++ s) = skipChars s := by
  cases h with
  | plain hcontrol hquote hbackslash =>
    simp only [List.singleton_append, skipChars_cons, if_neg hquote, if_neg hbackslash,
      if_neg hcontrol]
  | letter hletter =>
    simp [skipChars_cons, skipEscape, ne_u_of_letterEscape hletter, hletter, bind, Except.bind]
  | code hdigits =>
    simp [skipChars_cons, skipEscape, readHexQuad_append hdigits, bind, Except.bind, Except.map]

/-- **Skipping a string** succeeds exactly where the text is that of one. -/
theorem skipChars_eq_ok_iff {s rest : List Char} :
    skipChars s = .ok rest ↔ ∃ raw, s = raw ++ '"' :: rest ∧ StringText raw := by
  constructor
  · intro h
    fun_induction skipChars s with
    | case1 => cases h
    | case2 => cases h; exact ⟨[], rfl, .nil⟩
    | case3 => cases h
    | case4 _ _ hescape _ _ ih =>
      obtain ⟨part, rfl, hpart⟩ := stringPart_of_skipEscape hescape
      obtain ⟨raw, rfl, hraw⟩ := ih h
      exact ⟨'\\' :: part ++ raw, by simp, .cons hpart hraw⟩
    | case5 => cases h
    | case6 c _ hquote hbackslash hcontrol ih =>
      obtain ⟨raw, rfl, hraw⟩ := ih h
      exact ⟨[c] ++ raw, rfl, .cons (.plain hcontrol hquote hbackslash) hraw⟩
  · rintro ⟨raw, rfl, hraw⟩
    induction hraw with
    | nil => rw [List.nil_append, skipChars_cons, if_pos rfl]
    | cons hpart _ ih => rw [List.append_assoc, skipChars_append hpart, ih]

/-! ## What says something is a string -/

theorem StringText.append {raw raw' : List Char} (h : StringText raw) (h' : StringText raw') :
    StringText (raw ++ raw') := by
  induction h with
  | nil => exact h'
  | cons hpart _ ih =>
    rw [List.append_assoc]
    exact .cons hpart ih

theorem SaysChar.stringText {part : List Char} {c : Char} (h : SaysChar part c) :
    StringText part := by
  have single : ∀ {part}, StringPart part → StringText part := fun {part} hpart => by
    rw [← List.append_nil part]
    exact .cons hpart .nil
  cases h with
  | plain hcontrol hquote hbackslash => exact single (.plain hcontrol hquote hbackslash)
  | letter hletter => exact single (.letter hletter)
  | code hdigits _ => exact single (.code hdigits)
  | pair hdigits hdigits' =>
    exact StringText.cons (.code hdigits) (single (.code hdigits'))

/-- What says something is the text of a string. -/
theorem Says.stringText {raw : List Char} {text : String} (h : Says raw text) :
    StringText raw := by
  have general : ∀ {raw chars}, SaysChars raw chars → StringText raw := by
    intro raw chars h
    induction h with
    | nil => exact .nil
    | cons hpart _ ih => exact hpart.stringText.append ih
  exact general h

end Json

end StackProfiler
